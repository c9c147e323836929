import Mathlib
import Playfield.Asset.DataUrl
import Playfield.Proofs.Asset.Requested

/-!
# Decoding in the Background

A registry that decodes in the background ends up as one that decodes at once.

A request enters a source while it holds the table, and from then on several things go on
at their own pace: a worker is started for the source, or cannot be started, and when it
has been, it delivers what its decoder has made of the source. Requests and look-ups of
everybody who shares the table come in between. A run is therefore a list of moves of all of
these in some order, and what is proved of every run holds however they are interleaved.

What carries the proof is that an id is pending exactly if one decoding of it is in flight
(`Workshop.Tracks`). A source is entered only if its id is unknown, so there is never a
second decoding of it, and a delivery meets an entry that is still pending. It follows
that no entry changes twice.

What a table will be when all that is in flight has been delivered can be told at any time
(`AssetRegistry.forecast`). Deliveries do not change the forecast, and a request adds to it
what a request that is decoded at once adds to the table. When nothing is in flight, the
forecast is the table. So the order of the deliveries does not matter.

## Main definitions

* `Workshop`: A registry with what its decoders are working on.
* `Workshop.Move`, `Workshop.step?`, `Workshop.run?`: What can go on.
* `AssetRegistry.forecast`: The table when everything has been delivered.
* `Workshop.Tracks`: What is in flight is what is pending.

## Theorems

* `AssetRegistry.forecast_entered`, `AssetRegistry.forecast_finish`: What moves do to the
  forecast.
* `Workshop.Tracks.step_cases`: What a move does.
* `Workshop.Tracks.step`, `Workshop.Tracks.run`: Every move keeps track.
* `Workshop.Tracks.status?_run`: What has been settled does not change.
* `Workshop.Tracks.forecast_run`: The forecast is the table of a registry that decodes at
  once.
* `Workshop.background_decodes_once`: Every run decodes once, for good, and as if at once.
-/

namespace Playfield

/-- The decoding of a source. -/
def Fetch.decoding (f : Fetch) : Decoding := ⟨.of f.source, f.kind, f.source⟩

@[simp]
theorem Fetch.decoding_id (f : Fetch) : f.decoding.id = .of f.source := rfl

namespace AssetRegistry

variable {decode : Decoder} {r : AssetRegistry} {f : Fetch} {d : Decoding} {id : AssetId}
  {s : AssetStatus}

/-- A decoding ends with a status. -/
def close (r : AssetRegistry) (d : Decoding) (s : AssetStatus) : AssetRegistry :=
  { r.settle d.id s with inFlight := r.inFlight.erase d }

theorem finish_eq_close (decode : Decoder) (d : Decoding) (r : AssetRegistry) :
    r.finish decode d = r.close d (outcome decode d) := rfl

theorem outcome_ne_pending (decode : Decoder) (d : Decoding) : outcome decode d ≠ .pending := by
  unfold outcome
  split <;> simp

theorem isSome_status?_iff :
    (r.status? id).isSome = true ↔ id ∈ r.entries.map (·.1) := by
  simp [status?, List.find?_isSome]

theorem mode_fetchAll (decode : Decoder) (r : AssetRegistry) (fs : List Fetch) :
    (r.fetchAll decode fs).mode = r.mode := by
  induction fs generalizing r with
  | nil => rfl
  | cons f fs ih =>
      refine (ih (r.request decode f.kind f.source)).trans ?_
      rcases request_cases decode r f with ⟨_, heq⟩ | ⟨_, heq | heq⟩
      · rw [heq]
      · rw [heq]
        rfl
      · rw [heq]
        rfl

/-- An unknown source is entered, and decoded at once if that is the mode. -/
theorem request_unknown (h : r.status? (.of f.source) = none) :
    r.request decode f.kind f.source = match r.mode with
      | .inline => (r.entered f).finish decode f.decoding
      | .background => r.entered f := by
  have hunknown : ¬ (r.status? (.of f.source)).isSome = true := by simp [h]
  unfold request
  rw [if_neg hunknown]
  rfl

/-- Another source has become known. -/
theorem status?_entered_eq (r : AssetRegistry) (f : Fetch) (id : AssetId) :
    (r.entered f).status? id =
      (r.status? id).or (if AssetId.of f.source = id then some .pending else none) := by
  simp only [status?, entered, List.find?_append, List.find?_singleton, beq_iff_eq]
  cases r.entries.find? (fun e => e.1 == id) with
  | some e => rfl
  | none =>
      by_cases h : AssetId.of f.source = id
      · simp [h]
      · simp [h]

/-- A decoding that ends decides about its own id. -/
theorem status?_close (r : AssetRegistry) (d : Decoding) (s : AssetStatus) (id : AssetId) :
    (r.close d s).status? id =
      if id = d.id then (r.status? id).map fun _ => s else r.status? id := by
  have hkey (e : AssetId × AssetStatus) : (if e.1 = d.id then (e.1, s) else e).1 = e.1 := by
    split <;> rfl
  simp only [status?, close, settle, List.find?_map, Function.comp_def, hkey, Option.map_map]
  cases h : r.entries.find? (fun e => e.1 == id) with
  | none => simp
  | some e =>
      have he : e.1 = id := by simpa using List.find?_some h
      subst he
      by_cases hd : e.1 = d.id
      · simp [hd]
      · simp [hd]

/-- The table when all that is in flight has been delivered. -/
def forecast (decode : Decoder) (r : AssetRegistry) : List (AssetId × AssetStatus) :=
  r.entries.map fun e =>
    (e.1, ((r.inFlight.find? fun d => d.id == e.1).map (outcome decode)).getD e.2)

theorem keys_forecast (decode : Decoder) (r : AssetRegistry) :
    (r.forecast decode).map (·.1) = r.entries.map (·.1) := by
  simp [forecast]

/-- When nothing is in flight, there is nothing to wait for. -/
theorem forecast_of_idle (h : r.inFlight = []) : r.forecast decode = r.entries := by
  simp [forecast, h]

/-- A new source will be what its decoder makes of it. -/
theorem forecast_entered (hnew : r.status? (.of f.source) = none)
    (hidle : ∀ d ∈ r.inFlight, d.id ≠ .of f.source) :
    (r.entered f).forecast decode =
      r.forecast decode ++ [(.of f.source, outcome decode f.decoding)] := by
  have hkeys : ∀ e ∈ r.entries, e.1 ≠ .of f.source := by
    simpa [status?, List.find?_eq_none] using hnew
  have hnone : r.inFlight.find? (fun d => d.id == AssetId.of f.source) = none := by
    simpa [List.find?_eq_none] using hidle
  unfold forecast
  simp only [entered, List.map_append, List.map_singleton, List.find?_append, hnone,
    List.find?_singleton, beq_self_eq_true]
  congr 1
  refine List.map_congr_left fun e he => ?_
  have hne : AssetId.of f.source ≠ e.1 := fun h => hkeys e he h.symm
  simp [hne]

/-- One of some decodings of different ids, and the others. -/
theorem exists_split {ds : List Decoding} (hids : (ds.map (·.id)).Nodup) (hd : d ∈ ds) :
    ∃ before after, ds = before ++ d :: after ∧ ds.erase d = before ++ after ∧
      ∀ x ∈ before ++ after, x.id ≠ d.id := by
  rcases List.exists_erase_eq hd with ⟨before, after, _, heq, herase⟩
  refine ⟨before, after, heq, herase, fun x hx hid => ?_⟩
  have hperm : (ds.map (·.id)).Perm ((d :: (before ++ after)).map (·.id)) := by
    rw [heq]
    exact List.perm_middle.map _
  have hnodup := hperm.nodup_iff.1 hids
  rw [List.map_cons, List.nodup_cons] at hnodup
  exact hnodup.1 (List.mem_map.2 ⟨x, hx, hid⟩)

/-- A delivery has been foreseen. -/
theorem forecast_finish (hids : (r.inFlight.map (·.id)).Nodup) (hd : d ∈ r.inFlight) :
    (r.finish decode d).forecast decode = r.forecast decode := by
  rcases exists_split hids hd with ⟨before, after, heq, herase, hothers⟩
  unfold forecast
  simp only [finish, settle, List.map_map, herase]
  refine List.map_congr_left fun e _ => ?_
  by_cases h : d.id = e.1
  · -- The delivery is the only one in flight for this id.
    have hnone : (before ++ after).find? (fun x => x.id == e.1) = none := by
      rw [List.find?_eq_none]
      intro x hx
      simpa [← h] using hothers x hx
    rw [List.find?_append, Option.or_eq_none_iff] at hnone
    have hfound : (before ++ d :: after).find? (fun x => x.id == e.1) = some d := by
      simp [List.find?_append, hnone.1, h]
    rw [heq, hfound]
    simp [h, hnone.1, hnone.2]
  · have hother : (before ++ d :: after).find? (fun x => x.id == e.1) =
        (before ++ after).find? (fun x => x.id == e.1) := by
      simp [List.find?_append, h]
    rw [heq, hother]
    simp [Ne.symm h]

/-- When sources are decoded at once, a new one is entered as what its decoder makes of it. -/
theorem entries_request_inline (hmode : r.mode = .inline) (f : Fetch)
    (hnew : r.status? (.of f.source) = none) :
    (r.request decode f.kind f.source).entries =
      r.entries ++ [(.of f.source, outcome decode f.decoding)] := by
  have hkeys : ∀ e ∈ r.entries, e.1 ≠ f.decoding.id := by
    simpa [status?, List.find?_eq_none] using hnew
  rw [request_unknown hnew, hmode]
  have hold : r.entries.map (fun e => if e.1 = f.decoding.id then
      (e.1, outcome decode f.decoding) else e) = r.entries := by
    refine (List.map_congr_left fun e he => ?_).trans (List.map_id _)
    rw [if_neg (hkeys e he), id_eq]
  have hnow : (if AssetId.of f.source = f.decoding.id then
      (AssetId.of f.source, outcome decode f.decoding)
      else (AssetId.of f.source, AssetStatus.pending)) =
        (AssetId.of f.source, outcome decode f.decoding) :=
    if_pos f.decoding_id.symm
  simp only [finish, settle, entered, List.map_append, hold, List.map_singleton, hnow]

end AssetRegistry

/-- A registry that decodes in the background, and what its decoders are working on. -/
structure Workshop where
  registry : AssetRegistry
  running : List Decoding

namespace Workshop

/-- Nothing has been requested. -/
def initial : Workshop := ⟨.empty .background, []⟩

/-- What those who share the table and the workers do, each step at once. -/
inductive Move where
  | request (f : Fetch)
  | lookup (id : AssetId)
  /-- A worker has been started and gives the source to the decoder. -/
  | start (d : Decoding)
  /-- No worker can be started. -/
  | refuse (d : Decoding)
  /-- A worker enters what the decoder has made of the source. -/
  | deliver (d : Decoding)

/-- What a move leads to, if it is possible. -/
def step? (decode : Decoder) (w : Workshop) : Move → Option Workshop
  | .request f => some { w with registry := w.registry.request decode f.kind f.source }
  | .lookup _ => some w
  | .start d =>
    if d ∈ w.registry.inFlight ∧ d ∉ w.running then some { w with running := w.running ++ [d] }
    else none
  | .refuse d =>
    if d ∈ w.registry.inFlight ∧ d ∉ w.running then
      some { w with registry := w.registry.close d .failed }
    else none
  | .deliver d =>
    if d ∈ w.running then some ⟨w.registry.finish decode d, w.running.erase d⟩ else none

/-- What moves lead to one after the other, if they are possible. -/
def run? (decode : Decoder) (w : Workshop) (moves : List Move) : Option Workshop :=
  moves.foldlM (step? decode) w

/-- The sources that are requested. -/
def requests (moves : List Move) : List Fetch :=
  moves.filterMap fun
    | .request f => some f
    | _ => none

/-- The ids of the sources that the decoder is given. -/
def decoded (moves : List Move) : List AssetId :=
  moves.filterMap fun
    | .start d => some d.id
    | _ => none

/-- The ids of the sources that are done with. -/
def closed (moves : List Move) : List AssetId :=
  moves.filterMap fun
    | .refuse d | .deliver d => some d.id
    | _ => none

variable {decode : Decoder} {w v : Workshop} {m : Move} {moves : List Move}

theorem requests_concat (moves : List Move) (m : Move) :
    requests (moves ++ [m]) = requests moves ++ requests [m] :=
  List.filterMap_append

theorem decoded_concat (moves : List Move) (m : Move) :
    decoded (moves ++ [m]) = decoded moves ++ decoded [m] :=
  List.filterMap_append

theorem closed_concat (moves : List Move) (m : Move) :
    closed (moves ++ [m]) = closed moves ++ closed [m] :=
  List.filterMap_append

/-- What is in flight is what is pending, and what has been decoded is running or done with. -/
structure Tracks (moves : List Move) (w : Workshop) : Prop where
  mode : w.registry.mode = .background
  ids : (w.registry.inFlight.map (·.id)).Nodup
  pending : ∀ id, w.registry.status? id = some .pending ↔ ∃ d ∈ w.registry.inFlight, d.id = id
  known : ∀ id, (w.registry.status? id).isSome = true ↔ ∃ f ∈ requests moves, .of f.source = id
  closed : ∀ id, id ∈ closed moves ↔ ∃ s, s ≠ .pending ∧ w.registry.status? id = some s
  running : ∀ d ∈ w.running, d ∈ w.registry.inFlight
  nodup : w.running.Nodup
  once : (decoded moves).Nodup
  decoded : ∀ id ∈ decoded moves, id ∈ Workshop.closed moves ∨ ∃ d ∈ w.running, d.id = id

theorem tracks_initial : Tracks [] initial where
  mode := rfl
  ids := List.nodup_nil
  pending := by simp [initial, AssetRegistry.empty, AssetRegistry.status?]
  known := by simp [initial, AssetRegistry.empty, AssetRegistry.status?, requests]
  closed := by simp [initial, AssetRegistry.empty, AssetRegistry.status?, Workshop.closed]
  running := by simp [initial]
  nodup := List.nodup_nil
  once := List.nodup_nil
  decoded := by simp [Workshop.decoded]

/-- A look-up changes nothing, and neither does a request of what is known. -/
theorem Tracks.same (h : Tracks moves w) (hdecoded : Workshop.decoded [m] = [])
    (hclosed : Workshop.closed [m] = [])
    (hknown : ∀ f ∈ requests [m], (w.registry.status? (.of f.source)).isSome = true) :
    Tracks (moves ++ [m]) w := by
  refine ⟨h.mode, h.ids, h.pending, ?_, ?_, h.running, h.nodup, ?_, ?_⟩
  · intro id
    rw [h.known, requests_concat]
    refine ⟨fun ⟨f, hf, heq⟩ => ⟨f, List.mem_append_left _ hf, heq⟩, ?_⟩
    rintro ⟨f, hf, rfl⟩
    rcases List.mem_append.1 hf with hf | hf
    · exact ⟨f, hf, rfl⟩
    · exact (h.known _).1 (hknown f hf)
  · rw [closed_concat, hclosed, List.append_nil]
    exact h.closed
  · rw [decoded_concat, hdecoded, List.append_nil]
    exact h.once
  · rw [decoded_concat, hdecoded, closed_concat, hclosed, List.append_nil, List.append_nil]
    exact h.decoded

/-- A new source is pending, and its decoding is in flight. -/
theorem Tracks.enter (h : Tracks moves w) {f : Fetch}
    (hnew : w.registry.status? (.of f.source) = none) :
    Tracks (moves ++ [.request f]) { w with registry := w.registry.entered f } := by
  -- No decoding of this id is in flight.
  have hidle : ∀ d ∈ w.registry.inFlight, d.id ≠ .of f.source := by
    intro d hd hid
    have hpending := (h.pending _).2 ⟨d, hd, hid⟩
    rw [hnew] at hpending
    cases hpending
  have hflight : (w.registry.entered f).inFlight = w.registry.inFlight ++ [f.decoding] := rfl
  have hstatus (id : AssetId) : (w.registry.entered f).status? id =
      if id = .of f.source then some .pending else w.registry.status? id := by
    rw [AssetRegistry.status?_entered_eq]
    by_cases hid : id = .of f.source
    · simp [hid, hnew]
    · simp [hid, Ne.symm hid]
  refine ⟨h.mode, ?_, ?_, ?_, ?_, ?_, h.nodup, ?_, ?_⟩
  · rw [hflight, List.map_append, List.nodup_append]
    refine ⟨h.ids, List.nodup_singleton _, ?_⟩
    intro id hid other hother
    rcases List.mem_map.1 hid with ⟨d, hd, rfl⟩
    rw [List.mem_singleton.1 hother]
    exact hidle d hd
  · intro id
    rw [hflight, hstatus]
    by_cases hid : id = .of f.source
    · simp [hid]
    · simp [hid, h.pending, Ne.symm hid]
  · intro id
    rw [hstatus, requests_concat]
    by_cases hid : id = .of f.source
    · simp [hid, requests]
    · simp [hid, h.known, requests, Ne.symm hid, or_and_right, exists_or]
  · intro id
    rw [hstatus, closed_concat, show Workshop.closed [.request f] = [] from rfl, List.append_nil,
      h.closed]
    by_cases hid : id = .of f.source
    · simp [hid, hnew]
    · simp [hid]
  · intro d hd
    rw [hflight]
    exact List.mem_append_left _ (h.running d hd)
  · rw [decoded_concat, show Workshop.decoded [.request f] = [] from rfl, List.append_nil]
    exact h.once
  · rw [decoded_concat, show Workshop.decoded [.request f] = [] from rfl, closed_concat,
      show Workshop.closed [.request f] = [] from rfl, List.append_nil, List.append_nil]
    exact h.decoded

/-- A source that is given to the decoder has not been given to it before. -/
theorem Tracks.start (h : Tracks moves w) {d : Decoding} (hd : d ∈ w.registry.inFlight)
    (hidle : d ∉ w.running) :
    Tracks (moves ++ [.start d]) { w with running := w.running ++ [d] } := by
  have hnew : d.id ∉ Workshop.decoded moves := by
    intro hid
    rcases h.decoded d.id hid with hclosed | ⟨e, he, heq⟩
    · -- What is done with is not in flight.
      rcases (h.closed d.id).1 hclosed with ⟨s, hs, hstatus⟩
      rw [(h.pending d.id).2 ⟨d, hd, rfl⟩] at hstatus
      exact hs (Option.some_inj.1 hstatus).symm
    · -- There is only one decoding of this id in flight.
      have hsame := List.inj_on_of_nodup_map h.ids (h.running e he) hd heq
      exact hidle (hsame ▸ he)
  refine ⟨h.mode, h.ids, h.pending, ?_, ?_, ?_, ?_, ?_, ?_⟩
  · intro id
    rw [h.known, requests_concat, show requests [.start d] = [] from rfl, List.append_nil]
  · rw [closed_concat, show Workshop.closed [.start d] = [] from rfl, List.append_nil]
    exact h.closed
  · intro e he
    rcases List.mem_append.1 he with he | he
    · exact h.running e he
    · rw [List.mem_singleton.1 he]
      exact hd
  · exact List.concat_eq_append ▸ h.nodup.concat hidle
  · rw [decoded_concat, show Workshop.decoded [.start d] = [d.id] from rfl, List.nodup_append]
    refine ⟨h.once, List.nodup_singleton _, fun id hid other hother => ?_⟩
    rw [List.mem_singleton.1 hother]
    rintro rfl
    exact hnew hid
  · intro id hid
    rw [closed_concat, show Workshop.closed [.start d] = [] from rfl, List.append_nil]
    rw [decoded_concat] at hid
    rcases List.mem_append.1 hid with hid | hid
    · refine (h.decoded id hid).imp_right ?_
      rintro ⟨e, he, heq⟩
      exact ⟨e, List.mem_append_left _ he, heq⟩
    · exact .inr ⟨d, by simp, (List.mem_singleton.1 hid).symm⟩

/-- A decoding that ends settles its id. -/
theorem Tracks.close (h : Tracks moves w) {d : Decoding} {s : AssetStatus}
    (hd : d ∈ w.registry.inFlight) (hs : s ≠ .pending) (hrequests : requests [m] = [])
    (hdecoded : Workshop.decoded [m] = []) (hclosed : Workshop.closed [m] = [d.id]) :
    Tracks (moves ++ [m]) ⟨w.registry.close d s, w.running.erase d⟩ := by
  have hpending := (h.pending d.id).2 ⟨d, hd, rfl⟩
  have hstatus (id : AssetId) : (w.registry.close d s).status? id =
      if id = d.id then some s else w.registry.status? id := by
    rw [AssetRegistry.status?_close]
    by_cases hid : id = d.id
    · simp [hid, hpending]
    · simp [hid]
  -- The other decodings stay in flight, and they have other ids.
  have hmem (e : Decoding) : e ∈ w.registry.inFlight.erase d ↔
      e ∈ w.registry.inFlight ∧ e.id ≠ d.id := by
    rw [(List.Nodup.of_map _ h.ids).mem_erase_iff, and_comm]
    refine and_congr_right fun he => not_congr ⟨fun heq => heq ▸ rfl, fun heq => ?_⟩
    exact List.inj_on_of_nodup_map h.ids he hd heq
  refine ⟨h.mode, ?_, ?_, ?_, ?_, ?_, h.nodup.erase d, ?_, ?_⟩
  · exact h.ids.sublist (List.erase_sublist.map _)
  · intro id
    have hflight : (w.registry.close d s).inFlight = w.registry.inFlight.erase d := rfl
    rw [hstatus, hflight]
    by_cases hid : id = d.id
    · subst hid
      simp [hs, hmem]
    · rw [if_neg hid, h.pending]
      refine exists_congr fun e => ?_
      rw [hmem]
      refine ⟨fun he => ⟨⟨he.1, ?_⟩, he.2⟩, fun he => ⟨he.1.1, he.2⟩⟩
      rw [he.2]
      exact hid
  · intro id
    rw [hstatus, requests_concat, hrequests, List.append_nil, ← h.known]
    by_cases hid : id = d.id
    · simp [hid, hpending]
    · simp [hid]
  · intro id
    rw [hstatus, closed_concat, hclosed, List.mem_append, h.closed, List.mem_singleton]
    by_cases hid : id = d.id
    · simp [hid, hs]
    · simp [hid]
  · intro e he
    rw [h.nodup.mem_erase_iff] at he
    exact (List.mem_erase_of_ne he.1).2 (h.running e he.2)
  · rw [decoded_concat, hdecoded, List.append_nil]
    exact h.once
  · intro id hid
    rw [decoded_concat, hdecoded, List.append_nil] at hid
    rw [closed_concat, hclosed, List.mem_append, List.mem_singleton]
    rcases h.decoded id hid with hdone | ⟨e, he, rfl⟩
    · exact .inl (.inl hdone)
    · by_cases hed : e = d
      · exact .inl (.inr (hed ▸ rfl))
      · exact .inr ⟨e, (List.mem_erase_of_ne hed).2 he, rfl⟩

/-- What a move does. -/
theorem Tracks.step_cases (h : Tracks moves w) (hm : w.step? decode m = some v) :
    (v = w ∧ Workshop.decoded [m] = [] ∧ Workshop.closed [m] = [] ∧
      ∀ f ∈ requests [m], (w.registry.status? (.of f.source)).isSome = true) ∨
    (∃ f, m = .request f ∧ w.registry.status? (.of f.source) = none ∧
      v = { w with registry := w.registry.entered f }) ∨
    (∃ d ∈ w.registry.inFlight, d ∉ w.running ∧ m = .start d ∧
      v = { w with running := w.running ++ [d] }) ∨
    ∃ d ∈ w.registry.inFlight, ∃ s, s ≠ .pending ∧
      (m = .refuse d ∨ m = .deliver d ∧ s = AssetRegistry.outcome decode d) ∧
      v = ⟨w.registry.close d s, w.running.erase d⟩ := by
  cases m
  case request f =>
    cases hm
    cases hid : w.registry.status? (.of f.source) with
    | some s =>
        have hknown : (w.registry.status? (.of f.source)).isSome = true := by simp [hid]
        rw [AssetRegistry.request_known _ _ _ _ hknown]
        exact .inl ⟨rfl, rfl, rfl, by simpa [requests] using hknown⟩
    | none =>
        rw [AssetRegistry.request_unknown hid, h.mode]
        exact .inr (.inl ⟨f, rfl, hid, rfl⟩)
  case lookup id =>
    cases hm
    exact .inl ⟨rfl, rfl, rfl, by simp [requests]⟩
  case start d =>
    simp only [step?, Option.ite_none_right_eq_some, Option.some_inj] at hm
    rcases hm with ⟨⟨hd, hidle⟩, rfl⟩
    exact .inr (.inr (.inl ⟨d, hd, hidle, rfl, rfl⟩))
  case refuse d =>
    simp only [step?, Option.ite_none_right_eq_some, Option.some_inj] at hm
    rcases hm with ⟨⟨hd, hidle⟩, rfl⟩
    refine .inr (.inr (.inr ⟨d, hd, .failed, by simp, .inl rfl, ?_⟩))
    rw [List.erase_of_not_mem hidle]
  case deliver d =>
    simp only [step?, Option.ite_none_right_eq_some, Option.some_inj] at hm
    rcases hm with ⟨hd, rfl⟩
    exact .inr (.inr (.inr ⟨d, h.running d hd, _, AssetRegistry.outcome_ne_pending decode d,
      .inr ⟨rfl, rfl⟩, rfl⟩))

/-- Every move keeps track. -/
theorem Tracks.step (h : Tracks moves w) (hm : w.step? decode m = some v) :
    Tracks (moves ++ [m]) v := by
  rcases h.step_cases hm with ⟨rfl, hdecoded, hclosed, hknown⟩ | ⟨f, rfl, hnew, rfl⟩ |
    ⟨d, hd, hidle, rfl, rfl⟩ | ⟨d, hd, s, hs, rfl | ⟨rfl, _⟩, rfl⟩
  · exact h.same hdecoded hclosed hknown
  · exact h.enter hnew
  · exact h.start hd hidle
  · exact h.close hd hs rfl rfl rfl
  · exact h.close hd hs rfl rfl rfl

/-- However the moves are interleaved, each keeps track. -/
theorem Tracks.run {before : List Move} (h : Tracks before w)
    (hrun : w.run? decode moves = some v) : Tracks (before ++ moves) v := by
  induction moves generalizing before w with
  | nil =>
      cases hrun
      rwa [List.append_nil]
  | cons m moves ih =>
      rw [run?, List.foldlM_cons, Option.bind_eq_bind, Option.bind_eq_some_iff] at hrun
      rcases hrun with ⟨u, hm, hrest⟩
      have hlater := ih (h.step hm) hrest
      rwa [List.append_assoc] at hlater

/-- What has been settled does not change. -/
theorem Tracks.status?_step (h : Tracks moves w) (hm : w.step? decode m = some v) {id : AssetId}
    {s : AssetStatus} (hs : s ≠ .pending) (hid : w.registry.status? id = some s) :
    v.registry.status? id = some s := by
  -- What is settled is not in flight.
  have hother : ∀ d ∈ w.registry.inFlight, id ≠ d.id := by
    rintro d hd rfl
    rw [(h.pending d.id).2 ⟨d, hd, rfl⟩] at hid
    exact hs (Option.some_inj.1 hid).symm
  rcases h.step_cases hm with ⟨rfl, _⟩ | ⟨f, _, _, rfl⟩ | ⟨d, _, _, _, rfl⟩ | ⟨d, hd, t, _, _, rfl⟩
  · exact hid
  · rw [AssetRegistry.status?_entered_eq, hid]
    rfl
  · exact hid
  · rw [AssetRegistry.status?_close, if_neg (hother d hd), hid]

theorem Tracks.status?_run {before : List Move} (h : Tracks before w)
    (hrun : w.run? decode moves = some v) {id : AssetId} {s : AssetStatus} (hs : s ≠ .pending)
    (hid : w.registry.status? id = some s) : v.registry.status? id = some s := by
  induction moves generalizing before w with
  | nil =>
      cases hrun
      exact hid
  | cons m moves ih =>
      rw [run?, List.foldlM_cons, Option.bind_eq_bind, Option.bind_eq_some_iff] at hrun
      rcases hrun with ⟨u, hm, hrest⟩
      exact ih (h.step hm) hrest (h.status?_step hm hs hid)

/-- A move does to the forecast what it does to the table of a registry that decodes at once,
    unless no worker can be started. -/
theorem Tracks.forecast_step (h : Tracks moves w) (hm : w.step? decode m = some v)
    (hrefuse : ∀ d, m ≠ .refuse d) {r : AssetRegistry} (hmode : r.mode = .inline)
    (heq : w.registry.forecast decode = r.entries) :
    v.registry.forecast decode = (r.fetchAll decode (requests [m])).entries := by
  -- Both know the same ids.
  have hknown (id : AssetId) :
      (r.status? id).isSome = true ↔ (w.registry.status? id).isSome = true := by
    rw [AssetRegistry.isSome_status?_iff, AssetRegistry.isSome_status?_iff, ← heq,
      AssetRegistry.keys_forecast]
  rcases h.step_cases hm with ⟨rfl, -, -, hall⟩ | ⟨f, rfl, hnew, rfl⟩ | ⟨d, _, _, rfl, rfl⟩ |
    ⟨d, hd, s, _, rfl | ⟨rfl, rfl⟩, rfl⟩
  · rw [heq]
    cases m
    case request f =>
      have hagain := (hknown _).2 (hall f (by simp [requests]))
      exact congrArg AssetRegistry.entries (AssetRegistry.request_known decode _ _ r hagain).symm
    all_goals rfl
  · have hnone : r.status? (.of f.source) = none := by
      rw [← Option.not_isSome_iff_eq_none, hknown, hnew]
      simp
    have hidle : ∀ d ∈ w.registry.inFlight, d.id ≠ .of f.source := by
      intro d hd hid
      rw [(h.pending _).2 ⟨d, hd, hid⟩] at hnew
      cases hnew
    rw [AssetRegistry.forecast_entered hnew hidle, heq]
    exact (AssetRegistry.entries_request_inline hmode f hnone).symm
  · exact heq
  · exact absurd rfl (hrefuse d)
  · rw [← AssetRegistry.finish_eq_close, AssetRegistry.forecast_finish h.ids hd, heq]
    rfl

theorem Tracks.forecast_run {before : List Move} (h : Tracks before w)
    (hrun : w.run? decode moves = some v) (hrefuse : ∀ d, .refuse d ∉ moves) {r : AssetRegistry}
    (hmode : r.mode = .inline) (heq : w.registry.forecast decode = r.entries) :
    v.registry.forecast decode = (r.fetchAll decode (requests moves)).entries := by
  induction moves generalizing before w r with
  | nil =>
      cases hrun
      exact heq
  | cons m moves ih =>
      rw [run?, List.foldlM_cons, Option.bind_eq_bind, Option.bind_eq_some_iff] at hrun
      rcases hrun with ⟨u, hm, hrest⟩
      have hfirst : ∀ d, m ≠ .refuse d := fun d hd => hrefuse d (hd ▸ List.mem_cons_self)
      have hlater : ∀ d, .refuse d ∉ moves := fun d hd => hrefuse d (List.mem_cons_of_mem _ hd)
      have hsplit : requests (m :: moves) = requests [m] ++ requests moves :=
        List.filterMap_append (l := [m])
      rw [hsplit, AssetRegistry.fetchAll_append]
      refine ih (h.step hm) hrest hlater ?_ (h.forecast_step hm hfirst hmode heq)
      rw [AssetRegistry.mode_fetchAll, hmode]

/-- What is true of a run, however it has been interleaved. -/
structure DecodesOnce (decode : Decoder) (moves : List Move) (w : Workshop) : Prop where
  /-- The decoder has been given at most one source of each id. -/
  once : (decoded moves).Nodup
  /-- An id is pending exactly as long as one decoding of it is in flight. -/
  pending : ∀ id, w.registry.status? id = some .pending ↔ ∃! d, d ∈ w.registry.inFlight ∧ d.id = id
  /-- That is from its first request on, until it is done with. -/
  since : ∀ id, w.registry.status? id = some .pending ↔
    (∃ f ∈ requests moves, .of f.source = id) ∧ id ∉ closed moves
  /-- Once an id is ready or has failed, nothing changes it. -/
  settled : ∀ id s, s ≠ .pending → w.registry.status? id = some s →
    ∀ later v, w.run? decode later = some v → v.registry.status? id = some s
  /-- If all workers start, the table is in the end as if every source had been decoded at
      once when it was requested. -/
  table : (∀ d, .refuse d ∉ moves) → w.registry.inFlight = [] →
    w.registry.entries = ((AssetRegistry.empty .inline).fetchAll decode (requests moves)).entries

/-- In every run each source is decoded once and for good, and the table is in the end as if
    everything had been decoded at once. -/
theorem background_decodes_once (decode : Decoder) (moves : List Move) (w : Workshop)
    (h : initial.run? decode moves = some w) : DecodesOnce decode moves w := by
  have htracks : Tracks moves w := tracks_initial.run h
  refine ⟨htracks.once, ?_, ?_, ?_, ?_⟩
  · intro id
    rw [htracks.pending]
    refine ⟨fun ⟨d, hd, hid⟩ => ⟨d, ⟨hd, hid⟩, fun e he => ?_⟩, ExistsUnique.exists⟩
    exact List.inj_on_of_nodup_map htracks.ids he.1 hd (he.2.trans hid.symm)
  · intro id
    rw [← htracks.known, htracks.closed]
    cases w.registry.status? id with
    | none => simp
    | some s => simp
  · intro id s hs hid later v hrun
    exact htracks.status?_run hrun hs hid
  · intro hrefuse hidle
    have hforecast : w.registry.forecast decode = w.registry.entries :=
      AssetRegistry.forecast_of_idle hidle
    rw [← hforecast]
    exact tracks_initial.forecast_run h hrefuse rfl rfl

/-- Two sources, of which the second is delivered first. In between the first is requested
    once more, as something else. -/
def reversed : List Move :=
  let first : Fetch := ⟨.image, "data:image/png;base64,AAAA"⟩
  let second : Fetch := ⟨.audio, "not a source"⟩
  [.request first, .request second, .start first.decoding, .lookup (.of first.source),
    .start second.decoding, .deliver second.decoding, .request { first with kind := .audio },
    .deliver first.decoding]

/-- The second one has failed before the first one is ready. -/
theorem background_decodes_once_reversed :
    ∃ w, initial.run? DataUrl.decode reversed = some w ∧ DecodesOnce DataUrl.decode reversed w ∧
      w.registry.entries =
        ((AssetRegistry.empty .inline).fetchAll DataUrl.decode (requests reversed)).entries := by
  have hidle : (initial.run? DataUrl.decode reversed).map (·.registry.inFlight) = some [] := by
    decide +kernel
  rcases Option.map_eq_some_iff.1 hidle with ⟨w, hrun, hw⟩
  have h := background_decodes_once DataUrl.decode reversed w hrun
  refine ⟨w, hrun, h, h.table (fun d hd => ?_) hw⟩
  simp [reversed] at hd

end Workshop

end Playfield
