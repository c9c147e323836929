import Mathlib
import Playfield.Asset.Registry

/-!
# What Has Been Requested

What a registry tells about the requests that it has got.

A registry does not keep its requests, and a source that is known already leaves no
trace when it is requested again. But no entry is ever taken out, and none is made but by
a request. So an id is known exactly if a source of that id has been requested, and an
entry says that its source has failed only if a decoder has been given a source of that
id and has failed (`AssetRegistry.Accounts`).

That decoders deliver only what they have been given is all that is asked of the
background. In which order they deliver does not matter.

## Main definitions

* `Fetch`: A source that is requested, with its kind.
* `AssetRegistry.fetchAll`: Requests one after the other.
* `AssetRegistry.Accounts`: What a registry knows of its requests.

## Theorems

* `AssetRegistry.Accounts.fetchAll`, `AssetRegistry.Accounts.finish`: Requests and
  deliveries keep it so.
* `AssetRegistry.Accounts.fails`: A source is missing only if a decoder has failed.
-/

namespace Playfield

/-- A source that is requested, with its kind. -/
structure Fetch where
  kind : AssetKind
  source : String
  deriving DecidableEq

namespace AssetRegistry

/-- Requests sources one after the other. -/
def fetchAll (decode : Decoder) (r : AssetRegistry) (fs : List Fetch) : AssetRegistry :=
  fs.foldl (fun r f => r.request decode f.kind f.source) r

theorem fetchAll_append (decode : Decoder) (r : AssetRegistry) (fs gs : List Fetch) :
    r.fetchAll decode (fs ++ gs) = (r.fetchAll decode fs).fetchAll decode gs :=
  List.foldl_append

theorem status?_settle (r : AssetRegistry) (id other : AssetId) (s : AssetStatus) :
    ((r.settle id s).status? other).isSome = (r.status? other).isSome := by
  have hkey (e : AssetId × AssetStatus) : (if e.1 = id then (e.1, s) else e).1 = e.1 := by
    split <;> rfl
  simp only [status?, settle, List.find?_map, Function.comp_def, hkey, Option.isSome_map]

/-- The entry of a new source. -/
def entered (r : AssetRegistry) (f : Fetch) : AssetRegistry :=
  { r with
    entries := r.entries ++ [(.of f.source, .pending)]
    inFlight := r.inFlight ++ [⟨.of f.source, f.kind, f.source⟩] }

/-- A known source is left alone. Another one is entered, and decoded at once if that is
    the mode. -/
theorem request_cases (decode : Decoder) (r : AssetRegistry) (f : Fetch) :
    ((r.status? (.of f.source)).isSome ∧ r.request decode f.kind f.source = r) ∨
      ((r.status? (.of f.source)).isSome = false ∧
        (r.request decode f.kind f.source = r.entered f ∨
          r.request decode f.kind f.source =
            (r.entered f).finish decode ⟨.of f.source, f.kind, f.source⟩)) := by
  by_cases h : (r.status? (.of f.source)).isSome = true
  · exact .inl ⟨h, request_known decode f.kind f.source r h⟩
  · refine .inr ⟨Bool.eq_false_iff.2 h, ?_⟩
    unfold request
    rw [if_neg h]
    dsimp only
    split
    · exact .inr rfl
    · exact .inl rfl

theorem status?_entered (r : AssetRegistry) (f : Fetch) (id : AssetId) :
    ((r.entered f).status? id).isSome = true ↔
      (r.status? id).isSome = true ∨ AssetId.of f.source = id := by
  simp [status?, entered, List.find?_append]

/-- The decoder has failed with a source. -/
def Fails (decode : Decoder) (f : Fetch) : Prop :=
  ∃ e, decode (.of f.source) f.kind f.source = .error e

theorem outcome_eq_failed_iff (decode : Decoder) (d : Decoding) :
    outcome decode d = .failed ↔ ∃ e, decode d.id d.kind d.source = .error e := by
  unfold outcome
  split
  · next a h => simp [h]
  · next e h => simp [h]

/-- What a registry knows of its requests. -/
structure Accounts (decode : Decoder) (fs : List Fetch) (r : AssetRegistry) : Prop where
  /-- An id is known exactly if a source of that id has been requested. -/
  known : ∀ id, (r.status? id).isSome = true ↔ ∃ f ∈ fs, AssetId.of f.source = id
  inFlight : ∀ d ∈ r.inFlight, d.id = .of d.source ∧ ⟨d.kind, d.source⟩ ∈ fs
  /-- An entry has failed only if a source of its id has. -/
  failed : ∀ id, (id, .failed) ∈ r.entries →
    ∃ f ∈ fs, AssetId.of f.source = id ∧ Fails decode f

variable {decode : Decoder} {fs : List Fetch} {r : AssetRegistry}

theorem accounts_empty (decode : Decoder) (mode : DecodeMode) :
    Accounts decode [] (empty mode) :=
  ⟨by simp [status?, empty], by simp [empty], by simp [empty]⟩

/-- A source that has been requested before may be requested again. -/
theorem Accounts.again (h : Accounts decode fs r) {f : Fetch}
    (hknown : (r.status? (.of f.source)).isSome = true) : Accounts decode (fs ++ [f]) r where
  known := by
    intro id
    rw [h.known]
    simp only [List.mem_append, List.mem_singleton, or_and_right, exists_or, exists_eq_left]
    refine ⟨.inl, ?_⟩
    rintro (hf | rfl)
    · exact hf
    · exact (h.known _).1 hknown
  inFlight := fun d hd => ⟨(h.inFlight d hd).1, List.mem_append_left _ (h.inFlight d hd).2⟩
  failed := by
    intro id hid
    rcases h.failed id hid with ⟨g, hg, hfailed⟩
    exact ⟨g, List.mem_append_left _ hg, hfailed⟩

theorem Accounts.entered (h : Accounts decode fs r) (f : Fetch) :
    Accounts decode (fs ++ [f]) (r.entered f) where
  known := by
    intro id
    rw [status?_entered, h.known]
    simp only [List.mem_append, List.mem_singleton, or_and_right, exists_or, exists_eq_left]
  inFlight := by
    intro d hd
    rcases List.mem_append.1 hd with hold | hnew
    · exact ⟨(h.inFlight d hold).1, List.mem_append_left _ (h.inFlight d hold).2⟩
    · rw [List.mem_singleton.1 hnew]
      exact ⟨rfl, List.mem_concat_self⟩
  failed := by
    intro id hid
    -- The new entry is pending.
    rcases List.mem_append.1 hid with hold | hnew
    · rcases h.failed id hold with ⟨g, hg, hfailed⟩
      exact ⟨g, List.mem_append_left _ hg, hfailed⟩
    · rw [List.mem_singleton, Prod.mk.injEq] at hnew
      cases hnew.2

/-- A delivery of what has been in flight is accounted for. -/
theorem Accounts.finish (h : Accounts decode fs r) {d : Decoding} (hd : d ∈ r.inFlight) :
    Accounts decode fs (r.finish decode d) where
  known := by
    intro id
    rw [← h.known id, ← status?_settle r d.id id (outcome decode d)]
    rfl
  inFlight := fun e he => h.inFlight e (List.mem_of_mem_erase he)
  failed := by
    intro id hid
    rcases List.mem_map.1 hid with ⟨e, he, heq⟩
    split at heq
    · next hkey =>
      -- The entry is that of the delivery, and the decoder has just failed.
      rw [Prod.mk.injEq] at heq
      rcases h.inFlight d hd with ⟨hsource, hmem⟩
      have hfails := (outcome_eq_failed_iff decode d).1 heq.2
      rw [hsource] at hfails
      exact ⟨⟨d.kind, d.source⟩, hmem, hsource.symm.trans (hkey.symm.trans heq.1), hfails⟩
    · exact h.failed id (heq ▸ he)

theorem Accounts.request (h : Accounts decode fs r) (f : Fetch) :
    Accounts decode (fs ++ [f]) (r.request decode f.kind f.source) := by
  rcases request_cases decode r f with ⟨hknown, heq⟩ | ⟨_, heq | heq⟩
  · rw [heq]
    exact h.again hknown
  · rw [heq]
    exact h.entered f
  · rw [heq]
    exact (h.entered f).finish List.mem_concat_self

theorem Accounts.fetchAll (h : Accounts decode fs r) (gs : List Fetch) :
    Accounts decode (fs ++ gs) (r.fetchAll decode gs) := by
  induction gs generalizing fs r with
  | nil => rwa [List.append_nil]
  | cons g gs ih =>
      have hrest := ih (h.request g)
      rwa [List.append_assoc] at hrest

/-- A source that has been requested is missing only if a decoder has failed with a
    source of its id. -/
theorem Accounts.fails (h : Accounts decode fs r) {f : Fetch} (hf : f ∈ fs)
    (hmissing : r.lookupSource f.source = .failed) :
    ∃ g ∈ fs, AssetId.of g.source = .of f.source ∧ Fails decode g := by
  have hknown := (h.known (.of f.source)).2 ⟨f, hf, rfl⟩
  rcases Option.isSome_iff_exists.1 hknown with ⟨status, hstatus⟩
  have hfailed : status = .failed := by
    rwa [lookupSource, lookup, hstatus] at hmissing
  rw [status?, Option.map_eq_some_iff] at hstatus
  rcases hstatus with ⟨e, hfind, heq⟩
  have hkey := List.find?_some hfind
  rw [beq_iff_eq] at hkey
  refine h.failed _ ?_
  rw [← hfailed, ← heq, ← hkey]
  exact List.mem_of_find?_eq_some hfind

end AssetRegistry

end Playfield
