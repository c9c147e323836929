import Mathlib
import Playfield.Proofs.Asset.Requested
import Playfield.Proofs.Instance.Pictures
import Playfield.Proofs.Session.Follows
import Playfield.Proofs.Session.RoundTrip

/-!
# What a Session Requests

The pictures and sounds that are requested in a run.

The assets of the project are requested once, when a scene is entered for the first time.
After that two kinds of actions request pictures: one that sets the picture of a live
sprite, and one that creates a sprite with a picture of its own. The requests are written
down along the recursion of the events, with what the actions find (`Session.fetches`),
and they account for the registry: but for deliveries it does not change in any other way
(`Session.assets_call`).

The same actions are those that bring pictures into the game. So what an action requests
and what it does to the live instances is one statement (`Session.Fetches`).

## Main definitions

* `Deed.fetches`: The requests of a deed.
* `Session.fetches`: The requests of a run.
* `Session.Fetches`: What requests are made on the way to a session, and what pictures
  its instances have then.
* `Session.Delivers`: Decoders deliver only what they have been given.

## Theorems

* `Session.fetches_perform`: What an action requests.
* `Session.assets_call`: The requests of a call account for the registry.
* `Session.accounts_run`: The registry knows the requests of a run.
* `Session.registered_run`: Once registered, all pictures of the project have been
  requested.
-/

namespace Playfield

open AssetRegistry (Accounts)

variable {R B : Type}

/-- The request of a picture that an instance is given, if it is a sprite. -/
def Instance.fetches (source : String) (i : Instance R) : List Fetch :=
  if i.object.appearance.sprite?.isSome then [⟨.image, source⟩] else []

/-- The requests of a deed. -/
def Deed.fetches [Scalar R] [Planar R] (d : Deed R B) : List Fetch :=
  match d.action.kind with
  | .object target (.setSprite source) =>
    (d.session.roster.get? (Binding.resolve d.binding target)).toList.flatMap (·.fetches source)
  | .create c =>
    if c.sprite = "" then []
    else (d.session.creature? d.binding c).toList.flatMap (·.fetches c.sprite)
  | _ => []

namespace Session

/-- What has been requested on the way from a session to a later one. Live instances have
    no pictures but those that they have had and those that have been requested. -/
structure Fetches (s : Session R B) (fs : List Fetch) (t : Session R B) : Prop where
  assets : t.assets = s.assets.fetchAll DataUrl.decode fs
  registered : t.assetsRegistered = s.assetsRegistered
  live : ∀ K : String → Prop, (∀ p, ⟨.image, p⟩ ∈ fs → K p) →
    (∀ i ∈ s.roster.live, i.Within K) → ∀ i ∈ t.roster.live, i.Within K

variable {s t : Session R B} {fs : List Fetch}

/-- Nothing has been requested and no live instance has changed. -/
theorem fetches_of_eq (hassets : t.assets = s.assets)
    (hregistered : t.assetsRegistered = s.assetsRegistered)
    (hlive : t.roster.live = s.roster.live) : Fetches s [] t :=
  ⟨hassets, hregistered, fun _ _ h => hlive ▸ h⟩

theorem account_fetches : Account (Fetches (R := R) (B := B)) where
  nothing := fun _ => fetches_of_eq rfl rfl rfl
  append := by
    intro s t u fs gs h h'
    refine ⟨?_, h'.registered.trans h.registered, fun K hK hs => ?_⟩
    · rw [h'.assets, h.assets, AssetRegistry.fetchAll_append]
    · have hfirst := h.live K (fun p hp => hK p (List.mem_append_left _ hp)) hs
      exact h'.live K (fun p hp => hK p (List.mem_append_right _ hp)) hfirst

/-- A new instance that is noted is not among the live ones. -/
theorem Fetches.spawn (h : Fetches s fs t) (i : Instance R) : Fetches s fs (t.spawn i) :=
  ⟨h.assets, h.registered, h.live⟩

theorem fetches_withPicture (s : Session R B) (source : String) (i : Instance R) :
    Fetches s (if source = "" then [] else i.fetches source) (s.withPicture source i).1 := by
  unfold withPicture Instance.fetches
  by_cases hempty : source = ""
  · rw [if_pos hempty, if_pos hempty]
    exact account_fetches.nothing s
  · rw [if_neg hempty, if_neg hempty]
    -- The picture is requested exactly if there is a sprite that takes it.
    cases i.object.appearance
    case sprite p => exact ⟨rfl, rfl, fun _ _ h => h⟩
    case tiledSprite p => exact ⟨rfl, rfl, fun _ _ h => h⟩
    all_goals exact account_fetches.nothing s

/-- The instance that is given a picture has no others but its own. -/
theorem within_withPicture {K : String → Prop} {source : String} {i : Instance R}
    (hi : i.Within K) (hsource : source ≠ "" → ⟨.image, source⟩ ∈ i.fetches source → K source) :
    (s.withPicture source i).2.Within K := by
  unfold withPicture
  split
  · exact hi
  · next hempty =>
    split
    · exact hi
    · next a ha =>
      rcases Appearance.sprite?_of_updateSprite? ha with ⟨p, q, hp, hq, haq⟩
      cases hq
      have hfetch : ⟨.image, source⟩ ∈ i.fetches source := by
        rw [Instance.fetches, hp]
        exact List.mem_singleton_self _
      exact hi.setStill (hsource hempty hfetch) hp haq

section Steps

variable [Scalar R] [Planar R]

theorem fetches_create (s : Session R B) (binding : Option Binding) (a : String)
    (c : Creation R) :
    Fetches s (Deed.fetches ⟨s, binding, ⟨a, .create c⟩⟩) (s.create binding c) := by
  simp only [create, Deed.fetches]
  cases s.creature? binding c with
  | none =>
      dsimp only
      rw [Option.toList_none, List.flatMap_nil, ite_self]
      exact account_fetches.nothing s
  | some i =>
      have hpicture := fetches_withPicture s c.sprite i
      rw [Option.toList_some, List.flatMap_singleton]
      exact hpicture.spawn _

variable [Numeral R] {dt : R}

theorem live_change? {K : String → Prop} {id : String} {order : Order R}
    (h : s.change? id dt order = some t)
    (hpicture : ∀ source, order = .setPicture source → K source)
    (hs : ∀ i ∈ s.roster.live, i.Within K) : ∀ i ∈ t.roster.live, i.Within K := by
  simp only [change?, Option.map_eq_some_iff, Option.bind_eq_some_iff] at h
  rcases h with ⟨j, ⟨k, hk, hj⟩, rfl⟩
  intro i hi
  rcases Roster.mem_modifyFirst hi with hi | ⟨_, _, rfl⟩
  · exact hs i hi
  · exact Instance.within_of_result? (hs k (List.mem_of_find?_eq_some hk)) hpicture hj

theorem fetches_change (s : Session R B) (id : String) {order : Order R}
    (horder : ∀ source, order ≠ .setPicture source) : Fetches s [] (s.change id dt order) := by
  unfold change
  cases h : s.change? id dt order with
  | none => exact account_fetches.nothing s
  | some t =>
      have hlive (K : String → Prop) (hs : ∀ i ∈ s.roster.live, i.Within K) :
          ∀ i ∈ t.roster.live, i.Within K :=
        live_change? h (fun source heq => absurd heq (horder source)) hs
      simp only [change?, Option.map_eq_some_iff] at h
      rcases h with ⟨j, _, rfl⟩
      exact ⟨rfl, rfl, fun K _ => hlive K⟩

theorem fetches_setPicture (s : Session R B) (id : String) (dt : R) (source : String) :
    Fetches s ((s.roster.get? id).toList.flatMap (·.fetches source))
      (s.setPicture id dt source) := by
  unfold setPicture
  cases h : s.change? id dt (.setPicture source) with
  | none =>
      -- There is no such instance, or it is not a sprite.
      have hnone : (s.roster.get? id).toList.flatMap (·.fetches source) = [] := by
        simp only [change?, Option.map_eq_none_iff, Option.bind_eq_none_iff] at h
        cases hget : s.roster.get? id with
        | none => rfl
        | some i =>
            have hno := h i hget
            cases ha : i.object.appearance <;>
              simp [Order.result?, Appearance.updateSprite?, ha] at hno
            all_goals simp [Instance.fetches, ha, Appearance.sprite?]
      rw [hnone]
      exact account_fetches.nothing s
  | some t =>
      have hone : (s.roster.get? id).toList.flatMap (·.fetches source) = [⟨.image, source⟩] := by
        simp only [change?, Option.map_eq_some_iff, Option.bind_eq_some_iff] at h
        rcases h with ⟨j, ⟨i, hi, hj⟩, _⟩
        simp only [Order.result?, Option.map_eq_some_iff] at hj
        rcases hj with ⟨a, ha, _⟩
        rcases Appearance.sprite?_of_updateSprite? ha with ⟨p, _, hp, _⟩
        rw [hi, Option.toList_some, List.flatMap_singleton, Instance.fetches, hp]
        rfl
      have hlive (K : String → Prop) (hK : K source) (hs : ∀ i ∈ s.roster.live, i.Within K) :
          ∀ i ∈ t.roster.live, i.Within K :=
        live_change? h (fun other heq => Order.setPicture.inj heq ▸ hK) hs
      rw [hone]
      simp only [change?, Option.map_eq_some_iff] at h
      rcases h with ⟨j, _, rfl⟩
      exact ⟨rfl, rfl, fun K hK hs => hlive K (hK _ (List.mem_singleton_self _)) hs⟩

theorem order?_ne_setPicture {binding : Option Binding} {e : Effect R} {order : Order R}
    (h : s.order? binding e = some order) (source : String) : order ≠ .setPicture source := by
  rintro rfl
  cases e <;> simp [order?] at h

theorem fetches_affect (s : Session R B) (binding : Option Binding) (dt : R) (a target : String)
    (e : Effect R) :
    Fetches s (Deed.fetches ⟨s, binding, ⟨a, .object target e⟩⟩)
      (s.affect binding dt (Binding.resolve binding target) e) := by
  cases e
  case setSprite source => exact fetches_setPicture s _ dt source
  case destroy =>
    simp only [affect, destroy]
    split <;> exact fetches_of_eq rfl rfl rfl
  case fire bullet point =>
    simp only [affect, fire]
    split
    · exact (account_fetches.nothing s).spawn _
    · exact account_fetches.nothing s
  -- The other effects change one instance, or nothing.
  all_goals
    simp only [affect]
    split
    · next order horder => exact fetches_change s _ (order?_ne_setPicture horder)
    · exact account_fetches.nothing s

variable [AudioOutput R B] [DecidableEq R]

/-- What an action requests. -/
theorem fetches_perform (s : Session R B) (binding : Option Binding) (dt : R) (a : Action R) :
    Fetches s (Deed.fetches ⟨s, binding, a⟩) (perform binding dt s a) := by
  rcases a with ⟨id, kind⟩
  cases kind <;> simp only [perform]
  case object target e => exact fetches_affect s binding dt id target e
  case create c => exact fetches_create s binding id c
  case changeGlobal name op value =>
    unfold changeGlobal
    split <;> exact fetches_of_eq rfl rfl rfl
  case save slot =>
    rcases exists_save s slot with ⟨store, hstore⟩
    rw [hstore]
    exact fetches_of_eq rfl rfl rfl
  case clearSave slot =>
    rcases exists_clearSave s slot with ⟨store, hstore⟩
    rw [hstore]
    exact fetches_of_eq rfl rfl rfl
  all_goals exact fetches_of_eq rfl rfl rfl

/-- What the events of a tick request. -/
theorem fetches_runEvents (s : Session R B) (dt : R) :
    Fetches s ((s.deeds dt).flatMap Deed.fetches) (runEvents dt s) := by
  have haccount : Account fun (s : Session R B) (ds : List (Deed R B)) t =>
      Fetches s (ds.flatMap Deed.fetches) t := by
    refine ⟨account_fetches.nothing, fun h h' => ?_⟩
    rw [List.flatMap_append]
    exact account_fetches.append h h'
  refine runEvents_account haccount (fun t m => fetches_of_eq rfl rfl rfl) ?_ s
  intro t binding a
  rw [List.flatMap_singleton]
  exact fetches_perform t binding dt a

end Steps

/-- The requests of the assets of the project, if they have not been registered. -/
def registrations (s : Session R B) : List Fetch :=
  if s.assetsRegistered then []
  else s.project.pictures.keys.map (⟨.image, ·⟩) ++ s.project.sounds.map (⟨.audio, ·.source⟩)

theorem assets_registerAssets (s : Session R B) :
    s.registerAssets.assets = s.assets.fetchAll DataUrl.decode s.registrations ∧
      s.registerAssets.assetsRegistered = true := by
  have hpictures (ps : List String) (s : Session R B) :
      ps.foldl (fun s p => s.request .image p) s = { s with
        assets := s.assets.fetchAll DataUrl.decode (ps.map (⟨.image, ·⟩)) } := by
    induction ps generalizing s with
    | nil => rfl
    | cons p ps ih => exact ih (s.request .image p)
  have hsounds (ss : List (Sound R)) (s : Session R B) : (ss.foldl registerSound s).assets =
      s.assets.fetchAll DataUrl.decode (ss.map (⟨.audio, ·.source⟩)) := by
    induction ss generalizing s with
    | nil => rfl
    | cons a ss ih => exact ih (registerSound s a)
  unfold registerAssets registrations
  cases hdone : s.assetsRegistered with
  | true => exact ⟨rfl, hdone⟩
  | false =>
      refine ⟨?_, rfl⟩
      simp only [Bool.false_eq_true, if_false]
      rw [hsounds, hpictures, AssetRegistry.fetchAll_append]

section Calls

variable [Scalar R]

theorem assets_enter (s : Session R B) (scene : Option String) :
    (s.enter scene).1.assets = s.assets.fetchAll DataUrl.decode s.registrations ∧
      (s.enter scene).1.assetsRegistered = true := by
  cases hscene : s.registerAssets.findScene scene with
  | error e =>
      rw [enter_of_error hscene]
      exact assets_registerAssets s
  | ok found =>
      rw [enter_of_ok hscene]
      exact assets_registerAssets s

variable [Numeral R]

theorem assets_load (s : Session R B) (slot : String) :
    (s.load slot).1.assets = s.assets ∧
      (s.load slot).1.assetsRegistered = s.assetsRegistered := by
  rcases load_cases s slot with ⟨e, hload⟩ | ⟨text, save, scene, _, _, _, hload⟩
  · rw [hload]
    exact ⟨rfl, rfl⟩
  · rw [hload]
    exact ⟨rfl, rfl⟩

theorem assets_conclude (s : Session R B) (dt : R) :
    (conclude dt s).1.assets = s.assets ∧
      (conclude dt s).1.assetsRegistered = s.assetsRegistered := by
  rcases request_cases s with ⟨slot, hl, hload⟩ | ⟨hl, ⟨id, scene, hs, hscene⟩ | hs⟩
  · rw [conclude_of_loaded _ hl hload]
    exact assets_load s slot
  · rw [conclude_of_changed _ hl hs hscene]
    exact ⟨rfl, rfl⟩
  · rw [conclude_of_advanced _ hl hs]
    exact ⟨rfl, rfl⟩

variable [Planar R] [AudioOutput R B] [DecidableEq R]

/-- The requests of a tick. -/
def tickFetches (s : Session R B) (dt : R) : List Fetch :=
  if s.idles dt then []
  else ((s.begun dt).deeds (elapsedTime dt)).flatMap Deed.fetches

/-- The requests of a call. -/
def callFetches (s : Session R B) : HostCall R B → List Fetch
  | .enter _ => s.registrations
  | .tick dt => s.tickFetches dt
  | _ => []

/-- The requests of a run. -/
def fetches (s : Session R B) (calls : List (HostCall R B)) : List Fetch :=
  traced call callFetches s calls

theorem assets_tick (s : Session R B) (dt : R) :
    (s.tick dt).1.assets = s.assets.fetchAll DataUrl.decode (s.tickFetches dt) ∧
      (s.tick dt).1.assetsRegistered = s.assetsRegistered := by
  unfold tickFetches
  rcases tick_cases s dt with ⟨hidle, input, count, htick⟩ | ⟨hplayed, htick⟩
  · rw [if_pos hidle, htick]
    exact ⟨rfl, rfl⟩
  · have hevents := fetches_runEvents (s.begun dt) (elapsedTime dt)
    have hend := assets_conclude (s.passed dt) (elapsedTime dt)
    rw [if_neg hplayed, htick]
    exact ⟨hend.1.trans hevents.assets, hend.2.trans hevents.registered⟩

/-- The requests of a call account for the registry, unless it is a delivery. Only
    entering a scene registers the assets of the project. -/
theorem assets_call {c : HostCall R B} (hc : ∀ d, c ≠ .decoded d) :
    (s.call c).assets = s.assets.fetchAll DataUrl.decode (s.callFetches c) ∧
      ((s.call c).assetsRegistered = s.assetsRegistered ∨ s.callFetches c = s.registrations) := by
  cases c <;> dsimp only [call, callFetches]
  case enter scene => exact ⟨(assets_enter s scene).1, .inr rfl⟩
  case tick dt => exact ⟨(assets_tick s dt).1, .inl (assets_tick s dt).2⟩
  case load slot => exact ⟨(assets_load s slot).1, .inl (assets_load s slot).2⟩
  case decoded d => exact absurd rfl (hc d)
  case save slot =>
    rcases exists_save s slot with ⟨store, hstore⟩
    rw [hstore]
    exact ⟨rfl, .inl rfl⟩
  case clearSave slot =>
    rcases exists_clearSave s slot with ⟨store, hstore⟩
    rw [hstore]
    exact ⟨rfl, .inl rfl⟩
  case click pixel =>
    unfold click
    split <;> exact ⟨rfl, .inl rfl⟩
  case teardown =>
    unfold teardown
    split <;> exact ⟨rfl, .inl rfl⟩
  all_goals exact ⟨rfl, .inl rfl⟩

theorem registered_call (h : s.assetsRegistered = true → ∀ p ∈ s.project.pictures.keys,
      ⟨.image, p⟩ ∈ fs) (c : HostCall R B) :
    (s.call c).assetsRegistered = true → ∀ p ∈ (s.call c).project.pictures.keys,
      ⟨.image, p⟩ ∈ fs ++ s.callFetches c := by
  rw [(keeps_call s c).project]
  intro hdone p hp
  by_cases hbefore : s.assetsRegistered = true
  · exact List.mem_append_left _ (h hbefore p hp)
  by_cases hc : ∃ d, c = .decoded d
  · rcases hc with ⟨d, rfl⟩
    exact absurd hdone hbefore
  · rw [not_exists] at hc
    rcases (assets_call hc).2 with hsame | hall
    · exact absurd (hsame ▸ hdone) hbefore
    · -- Just now everything has been requested.
      rw [hall, registrations, if_neg hbefore]
      exact List.mem_append_right _ (List.mem_append_left _ (List.mem_map_of_mem hp))

/-- Decoders deliver only what they have been given. -/
def Delivers (s : Session R B) : List (HostCall R B) → Prop
  | [] => True
  | c :: calls => (∀ d, c = .decoded d → d ∈ s.assets.inFlight) ∧ (s.call c).Delivers calls

theorem accounts_call (h : s.assets.Accounts DataUrl.decode fs) {c : HostCall R B}
    (hd : ∀ d, c = .decoded d → d ∈ s.assets.inFlight) :
    (s.call c).assets.Accounts DataUrl.decode (fs ++ s.callFetches c) := by
  by_cases hc : ∃ d, c = .decoded d
  · rcases hc with ⟨d, rfl⟩
    have hnone : s.callFetches (.decoded d) = [] := rfl
    rw [hnone, List.append_nil]
    exact h.finish (hd d rfl)
  · rw [not_exists] at hc
    rw [(assets_call hc).1]
    exact h.fetchAll _

/-- The registry knows the requests of a run. -/
theorem accounts_run {calls : List (HostCall R B)} (h : s.assets.Accounts DataUrl.decode fs)
    (hd : s.Delivers calls) :
    (s.run calls).assets.Accounts DataUrl.decode (fs ++ s.fetches calls) := by
  induction calls generalizing s fs with
  | nil =>
      rw [fetches, traced, List.append_nil]
      exact h
  | cons c calls ih =>
      have hrest := ih (accounts_call h hd.1) hd.2
      rwa [List.append_assoc] at hrest

/-- Once the assets of the project have been registered, all its pictures have been
    requested. -/
theorem registered_run {calls : List (HostCall R B)}
    (h : s.assetsRegistered = true → ∀ p ∈ s.project.pictures.keys, ⟨.image, p⟩ ∈ fs) :
    (s.run calls).assetsRegistered = true → ∀ p ∈ (s.run calls).project.pictures.keys,
      ⟨.image, p⟩ ∈ fs ++ s.fetches calls := by
  induction calls generalizing s fs with
  | nil =>
      rw [fetches, traced, List.append_nil]
      exact h
  | cons c calls ih =>
      have hrest := ih (registered_call h c)
      rwa [List.append_assoc] at hrest

end Calls

end Session

end Playfield
