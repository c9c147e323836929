import Mathlib
import Playfield.Proofs.Audio.Ledger
import Playfield.Scalar.Double

/-!
# The Diary of a Mixer

What is heard under a name, told from what an output has been asked for.

A log tells of numbers, and a game speaks of names. So the events of a log are put down
together with the name that the mixer was called with at the time: the diary of the calls. It
can be read off a diary which playbacks of a name are open. A sound is open until it is stopped
or reported to have ended. Music is open until it is stopped. It is never forgotten because of a
report, and a piece of music that has ended by itself stays what is heard under its name until
something else ends it (`AudioDiary.Overstays`). When that happens the output is asked to stop a
playback that it has reported before.

That a mixer holds what its diary leaves open is kept by each call, as long as the output answers
with new numbers (`Mixer.Told`). A call writes some events, and each of them opens or closes
what it says (`AudioDiary.Tells.concat`). The ledger is needed for what is stopped: nothing but
that is held under its number.

## Main definitions

* `AudioDiary`: What an output has been asked for, with names.
* `AudioDiary.Lasts`: A playback has neither been stopped nor been reported.
* `AudioDiary.Overstays`: Music has been reported and not been stopped.
* `AudioDiary.Tells`: What is held is what is open in a diary.
* `Mixer.diary`: The diary of some calls.

## Theorems

* `AudioDiary.isOpen_concat`: What an event opens and closes.
* `Mixer.Told.play`, `Mixer.Told.stop`, `Mixer.Told.playMusic`, `Mixer.Told.stopMusic`,
  `Mixer.Told.reap`, `Mixer.Told.stopAll`: What the diary of each call tells.
* `Mixer.Told.hearAll`: The diary of calls tells what is held after them.
* `Mixer.heard_iff_unfinished`: What is heard has not ended, or is music that overstays.
-/

namespace Playfield

/-- What an output has been asked for, each time with the name that was called for. -/
abbrev AudioDiary : Type := List (Option String × AudioEvent)

namespace AudioDiary

/-- The log without the names. -/
def log (d : AudioDiary) : AudioLog := d.map (·.2)

/-- A playback has been started under a name, looped or not, and this has been since. -/
def IsSince (d : AudioDiary) (looped : Bool) (name : String) (id : PlaybackId)
    (since : AudioDiary) : Prop :=
  ∃ before, d = before ++ (some name, .start looped (some id)) :: since

/-- A playback of a name has neither been stopped nor been reported to have ended. -/
def Lasts (d : AudioDiary) (looped : Bool) (name : String) (id : PlaybackId) : Prop :=
  ∃ since, d.IsSince looped name id since ∧ id ∉ AudioLog.stopped since.log ∧
    id ∉ AudioLog.ended since.log

/-- A piece of music has been reported to have ended, and nobody has stopped it. -/
def Overstays (d : AudioDiary) (name : String) (id : PlaybackId) : Prop :=
  ∃ since, d.IsSince true name id since ∧ id ∉ AudioLog.stopped since.log ∧
    id ∈ AudioLog.ended since.log

/-- A playback has not been stopped, nor been reported to have ended unless it is music. -/
def IsOpen (d : AudioDiary) (looped : Bool) (name : String) (id : PlaybackId) : Prop :=
  ∃ since, d.IsSince looped name id since ∧ id ∉ AudioLog.stopped since.log ∧
    (looped = false → id ∉ AudioLog.ended since.log)

variable {d : AudioDiary} {looped : Bool} {name : String} {id : PlaybackId} {title : Option String}
  {e : AudioEvent}

theorem isOpen_iff :
    d.IsOpen looped name id ↔ d.Lasts looped name id ∨ looped = true ∧ d.Overstays name id := by
  constructor
  · rintro ⟨since, hsince, hstopped, hended⟩
    by_cases hend : id ∈ AudioLog.ended since.log
    · cases looped with
      | false => exact absurd hend (hended rfl)
      | true => exact .inr ⟨rfl, since, hsince, hstopped, hend⟩
    · exact .inl ⟨since, hsince, hstopped, hend⟩
  · rintro (⟨since, hsince, hstopped, hended⟩ | ⟨rfl, since, hsince, hstopped, _⟩)
    · exact ⟨since, hsince, hstopped, fun _ => hended⟩
    · exact ⟨since, hsince, hstopped, nofun⟩

/-- What is open after another event was open before and is not closed by it, or the event has
    started it. -/
theorem isOpen_concat :
    IsOpen (d ++ [(title, e)]) looped name id ↔
      (title = some name ∧ e = .start looped (some id)) ∨
        d.IsOpen looped name id ∧ id ∉ e.stopped ∧ (looped = false → id ∉ e.ended) := by
  have hstopped (since : AudioDiary) : id ∈ AudioLog.stopped (since ++ [(title, e)]).log ↔
      id ∈ AudioLog.stopped since.log ∨ id ∈ e.stopped := by
    rw [log, List.map_append]
    exact AudioLog.mem_stopped_concat
  have hended (since : AudioDiary) : id ∈ AudioLog.ended (since ++ [(title, e)]).log ↔
      id ∈ AudioLog.ended since.log ∨ id ∈ e.ended := by
    rw [log, List.map_append]
    exact AudioLog.mem_ended_concat
  constructor
  · rintro ⟨since, ⟨before, hd⟩, hs, he⟩
    rcases AudioLog.split_concat hd with ⟨_, heq⟩ | ⟨rest, rfl, hrest⟩
    · exact .inl (Prod.mk.inj heq)
    · rw [hstopped, not_or] at hs
      simp only [hended, not_or] at he
      exact .inr ⟨⟨rest, ⟨before, hrest⟩, hs.1, fun hl => (he hl).1⟩, hs.2, fun hl => (he hl).2⟩
  · rintro (⟨rfl, rfl⟩ | ⟨⟨since, ⟨before, rfl⟩, hs, he⟩, hs', he'⟩)
    · exact ⟨[], ⟨d, rfl⟩, List.not_mem_nil, fun _ => List.not_mem_nil⟩
    · refine ⟨since ++ [(title, e)], ⟨before, by simp⟩, ?_, fun hl => ?_⟩
      · rw [hstopped, not_or]
        exact ⟨hs, hs'⟩
      · rw [hended, not_or]
        exact ⟨he hl, he' hl⟩

/-- What is held, looped or not and under a name. -/
abbrev Holding : Type := Bool → String → PlaybackId → Prop

/-- What is held is what is open in a diary, and only what was open has been stopped. -/
structure Tells (d : AudioDiary) (held : Holding) : Prop where
  open_iff : ∀ looped name id, held looped name id ↔ d.IsOpen looped name id
  spares : ∀ before title id after, d = before ++ (title, .stop id) :: after →
    ∃ looped name, IsOpen before looped name id

variable {held held' : Holding}

theorem tells_nil (h : ∀ looped name id, ¬ held looped name id) : Tells [] held where
  open_iff := by
    intro looped name id
    refine iff_of_false (h looped name id) ?_
    rintro ⟨since, ⟨before, hd⟩, _⟩
    exact absurd hd.symm (List.append_ne_nil_of_right_ne_nil _ (List.cons_ne_nil _ _))
  spares := by
    intro before title id after hd
    exact absurd hd.symm (List.append_ne_nil_of_right_ne_nil _ (List.cons_ne_nil _ _))

/-- A diary goes on to tell what is held, if each event opens and closes what it says and only
    what is held is stopped. -/
theorem Tells.concat (h : Tells d held)
    (hheld : ∀ looped name id, held' looped name id ↔
      (title = some name ∧ e = .start looped (some id)) ∨
        held looped name id ∧ id ∉ e.stopped ∧ (looped = false → id ∉ e.ended))
    (hstopped : ∀ id ∈ e.stopped, ∃ looped name, held looped name id) :
    Tells (d ++ [(title, e)]) held' where
  open_iff := by
    intro looped name id
    rw [hheld, h.open_iff, isOpen_concat]
  spares := by
    intro before title' id after hd
    rcases AudioLog.split_concat hd with ⟨rfl, heq⟩ | ⟨rest, _, hrest⟩
    · cases heq
      rcases hstopped id (List.mem_singleton_self id) with ⟨looped, name, hid⟩
      exact ⟨looped, name, (h.open_iff looped name id).1 hid⟩
    · exact h.spares before title' id rest hrest

/-- A playback is started under a name, if it is not refused. -/
theorem Tells.start (h : Tells d held) {answer : Option PlaybackId}
    (hheld : ∀ l other x, held' l other x ↔
      held l other x ∨ name = other ∧ looped = l ∧ answer = some x) :
    Tells (d ++ [(some name, .start looped answer)]) held' := by
  refine h.concat (fun l other x => ?_) nofun
  rw [hheld, or_comm]
  simp [AudioEvent.stopped, AudioEvent.ended]

/-- What is reported to have ended is forgotten, if it is a sound. -/
theorem Tells.drain (h : Tells d held) {ids : List PlaybackId}
    (hheld : ∀ l other x, held' l other x ↔ held l other x ∧ (l = false → x ∉ ids)) :
    Tells (d ++ [(title, .drain ids)]) held' := by
  refine h.concat (fun l other x => ?_) nofun
  rw [hheld]
  simp [AudioEvent.stopped, AudioEvent.ended]

theorem Tells.congr (h : Tells d held)
    (hheld : ∀ looped name id, held' looped name id ↔ held looped name id) : Tells d held' :=
  ⟨fun l other x => (hheld l other x).trans (h.open_iff l other x), h.spares⟩

/-- A playback that is held is stopped. -/
theorem Tells.stop (h : Tells d held) (hid : ∃ looped name, held looped name id)
    (hheld : ∀ l other x, held' l other x ↔ held l other x ∧ x ≠ id) :
    Tells (d ++ [(title, .stop id)]) held' := by
  refine h.concat (fun l other x => ?_) fun x hx => ?_
  · rw [hheld]
    simp [AudioEvent.stopped, AudioEvent.ended]
  · rw [List.mem_singleton.1 hx]
    exact hid

/-- Several playbacks that are held are stopped one after the other. -/
theorem Tells.stops (h : Tells d held) {ids : List PlaybackId} (hnodup : ids.Nodup)
    (hids : ∀ id ∈ ids, ∃ looped name, held looped name id)
    (hheld : ∀ l other x, held' l other x ↔ held l other x ∧ x ∉ ids) :
    Tells (d ++ ids.map fun id => (title, .stop id)) held' := by
  induction ids generalizing d held with
  | nil =>
      rw [List.map_nil, List.append_nil]
      exact h.congr (by simpa using hheld)
  | cons id ids ih =>
      rw [List.nodup_cons] at hnodup
      rw [List.forall_mem_cons] at hids
      rw [List.map_cons, List.append_cons]
      have hfirst : Tells (d ++ [(title, .stop id)]) fun l other x => held l other x ∧ x ≠ id :=
        h.stop hids.1 fun _ _ _ => Iff.rfl
      -- The others are still held.
      refine ih hfirst hnodup.2 (fun x hx => ?_) fun l other x => ?_
      · rcases hids.2 x hx with ⟨l, other, hother⟩
        refine ⟨l, other, hother, ?_⟩
        rintro rfl
        exact hnodup.1 hx
      · rw [hheld, List.mem_cons, not_or, and_assoc]

end AudioDiary

/-- The name that a call is about. -/
def MixerCall.name? {R B : Type} : MixerCall R B → Option String
  | .play name _ | .stop name | .playMusic name _ => some name
  | .stopMusic | .setVolume _ | .reap | .stopAll | .played _ => none

namespace Mixer

variable {B : Type}

/-- A playback is held under a name, as music or as one of the sounds. -/
def Holds (m : Mixer B) : AudioDiary.Holding
  | true, name, id => m.music = some (name, id)
  | false, name, id => id ∈ m.held (some name)

theorem isPlaying_iff_holds (m : Mixer B) (name : String) :
    m.isPlaying name = true ↔ ∃ looped id, m.Holds looped name id := by
  have hsound : (!((m.playing.get? name).getD []).isEmpty) = true ↔
      ∃ id, m.Holds false name id := by
    simp only [Holds, held, Bool.not_eq_true', List.isEmpty_eq_false_iff]
    constructor
    · exact List.exists_mem_of_ne_nil _
    · rintro ⟨id, hid⟩
      exact List.ne_nil_of_mem hid
  have hmusic : ((m.music.map (·.1)) == some name) = true ↔ ∃ id, m.Holds true name id := by
    simp [Holds]
  rw [isPlaying, Bool.or_eq_true, hsound, hmusic, Bool.exists_bool]

theorem mem_addId {id x : PlaybackId} {ids : List PlaybackId} :
    x ∈ addId id ids ↔ x = id ∨ x ∈ ids := by
  induction ids with
  | nil => simp [addId]
  | cons i is ih =>
      unfold addId
      split
      · exact List.mem_cons
      · split
        · next hid => simp [hid]
        · rw [List.mem_cons, ih, List.mem_cons, or_left_comm]

/-- Sounds and music have different numbers. -/
theorem ne_of_accounts {m : Mixer (Recorded B)} {log : AudioLog}
    (h : AudioLog.Accounts log m.held) {name other : String} {id x : PlaybackId}
    (hid : id ∈ m.held (some name)) (hmusic : m.music = some (other, x)) : id ≠ x := by
  rintro rfl
  have hnone : id ∈ m.held none := by simp [held, hmusic]
  cases h.isApart.apart hnone hid

/-- A diary has the log of a mixer and, as long as all numbers are new, tells what it holds. -/
structure Told (d : AudioDiary) (m : Mixer (Recorded B)) : Prop where
  log : d.log = m.output.log
  balanced : m.Balanced
  tells : AudioLog.Fresh m.output.log → d.Tells m.Holds

/-- A diary can be continued under a title until it tells what another mixer holds. -/
def Continues (title : Option String) (d : AudioDiary) (m : Mixer (Recorded B)) : Prop :=
  ∃ events : AudioLog, Told (d ++ events.map (title, ·)) m

variable {d : AudioDiary} {m : Mixer (Recorded B)} {title : Option String}

theorem Told.continues (h : Told d m) : Continues title d m := ⟨[], by simpa using h⟩

/-- What is done to a mixer may be done in two steps. -/
theorem Continues.trans {m' : Mixer (Recorded B)} (h : Continues title d m)
    (hnext : ∀ {d}, Told d m → Continues title d m') : Continues title d m' := by
  rcases h with ⟨events, htold⟩
  rcases hnext htold with ⟨later, hlater⟩
  exact ⟨events ++ later, by simpa using hlater⟩

/-- One more event, if it has the effect that it says. -/
theorem Told.event {m' : Mixer (Recorded B)} (h : Told d m) {e : AudioEvent}
    (hlog : m'.output.log = m.output.log ++ [e]) (hbalanced : m'.Balanced)
    (htells : AudioLog.Fresh m'.output.log → d.Tells m.Holds → (d ++ [(title, e)]).Tells m'.Holds) :
    Continues title d m' := by
  refine ⟨[e], ?_, hbalanced, fun hfresh => ?_⟩
  · rw [hlog, ← h.log]
    simp [AudioDiary.log]
  · refine htells hfresh (h.tells ?_)
    rw [hlog] at hfresh
    exact hfresh.of_append

variable {R : Type} [AudioOutput R B]

theorem Told.play (h : Told d m) (name : String) (clip : Option Asset) :
    Continues (some name) d (m.play name clip) := by
  have hbalanced := h.balanced.play name clip
  cases clip with
  | none => exact h.continues
  | some clip =>
      rcases hstart : AudioOutput.start m.output.output clip false with ⟨output, _ | id⟩
      · simp only [Mixer.play, Recorded.start_eq hstart] at hbalanced ⊢
        refine h.event rfl hbalanced fun _ htells => htells.start fun looped other x => ?_
        cases looped <;> simp [Holds, held]
      · simp only [Mixer.play, Recorded.start_eq hstart] at hbalanced ⊢
        refine h.event rfl hbalanced fun _ htells => htells.start fun looped other x => ?_
        cases looped with
        | true => simp [Holds]
        | false =>
            rw [Holds, Holds, held_insert]
            by_cases hother : other = name
            · subst hother
              rw [Function.update_self, mem_addId, or_comm]
              simp [held, eq_comm]
            · rw [Function.update_of_ne (fun h => hother (Option.some_injective _ h))]
              simp [Ne.symm hother]

theorem Told.stop (h : Told d m) (name : String) : Continues title d (m.stop name) := by
  have hlog : (m.stop name).output.log =
      m.output.log ++ (m.held (some name)).map .stop := by
    rw [Mixer.stop, Recorded.foldl_stop]
    rfl
  refine ⟨(m.held (some name)).map .stop, ?_, h.balanced.stop name, fun hfresh => ?_⟩
  · rw [hlog, ← h.log]
    simp [AudioDiary.log]
  rw [hlog] at hfresh
  have haccounts := h.balanced hfresh.of_append
  rw [List.map_map]
  refine (h.tells hfresh.of_append).stops (haccounts.isApart.nodup _)
    (fun id hid => ⟨false, name, hid⟩) fun looped other x => ?_
  -- What is held elsewhere is held under another number.
  have hheld : (m.stop name).held = Function.update m.held (some name) [] := held_erase ..
  cases looped with
  | true => exact (and_iff_left_of_imp fun hmusic hx => ne_of_accounts haccounts hx hmusic rfl).symm
  | false =>
      rw [Holds, Holds, hheld]
      by_cases hother : other = name
      · subst hother
        rw [Function.update_self]
        exact iff_of_false List.not_mem_nil fun hx => hx.2 hx.1
      · rw [Function.update_of_ne (fun h => hother (Option.some_injective _ h))]
        refine (and_iff_left_of_imp fun hid hx => hother ?_).symm
        exact Option.some_injective _ (haccounts.isApart.apart hid hx)

theorem Told.stopMusic (h : Told d m) : Continues title d m.stopMusic := by
  have hbalanced := h.balanced.stopMusic
  unfold Mixer.stopMusic at hbalanced ⊢
  split at hbalanced
  · next hmusic => exact h.continues
  · next name id hmusic =>
    refine h.event (e := .stop id) rfl hbalanced fun hfresh htells => ?_
    have haccounts := h.balanced (AudioLog.Fresh.of_append hfresh)
    refine htells.stop ⟨true, name, hmusic⟩ fun looped other x => ?_
    cases looped with
    | true =>
        refine iff_of_false nofun fun hx => ?_
        cases hmusic.symm.trans hx.1
        exact hx.2 rfl
    | false => exact (and_iff_left_of_imp fun hid => ne_of_accounts haccounts hid hmusic).symm

theorem Told.playMusic (h : Told d m) (name : String) (clip : Option Asset) :
    Continues (some name) d (m.playMusic name clip) := by
  have hbalanced := h.balanced.playMusic name clip
  have hnone := music_stopMusic m
  refine h.stopMusic.trans fun h => ?_
  unfold Mixer.playMusic at hbalanced ⊢
  generalize m.stopMusic = m' at h hnone hbalanced ⊢
  cases clip with
  | none => exact h.continues
  | some clip =>
      rcases hstart : AudioOutput.start m'.output.output clip true with ⟨output, _ | id⟩
      · simp only [Recorded.start_eq hstart] at hbalanced ⊢
        refine h.event rfl hbalanced fun _ htells => htells.start fun looped other x => ?_
        cases looped <;> simp [Holds, held]
      · simp only [Recorded.start_eq hstart] at hbalanced ⊢
        refine h.event rfl hbalanced fun _ htells => htells.start fun looped other x => ?_
        cases looped <;> simp [Holds, held, hnone]

theorem Told.reap (h : Told d m) : Continues title d m.reap := by
  have hbalanced := h.balanced.reap
  rcases hdrain : AudioOutput.drain m.output.output with ⟨output, ended⟩
  simp only [Mixer.reap, Recorded.drain_eq hdrain] at hbalanced ⊢
  split at hbalanced
  · next hended =>
    rw [List.isEmpty_iff] at hended
    subst hended
    refine h.event rfl hbalanced fun _ htells => htells.drain fun looped other x => ?_
    exact (and_iff_left_of_imp fun _ _ => List.not_mem_nil).symm
  · next hended =>
    rw [if_neg hended]
    refine h.event rfl hbalanced fun _ htells => htells.drain fun looped other x => ?_
    cases looped with
    | true => simp [Holds]
    | false =>
        rw [Holds, held_forget, List.mem_filter]
        simp [Holds]

theorem Told.foldl_stop (names : List String) (h : Told d m) :
    Continues title d (names.foldl Mixer.stop m) := by
  induction names generalizing m d with
  | nil => exact h.continues
  | cons name names ih => exact (h.stop name).trans fun h => ih h

theorem Told.stopAll (h : Told d m) : Continues title d m.stopAll :=
  (h.foldl_stop m.playing.keys).trans Told.stopMusic

/-- Every call continues the diary under its name. -/
theorem Told.hear (h : Told d m) (c : MixerCall R B) : Continues c.name? d (m.hear c) := by
  cases c
  case play name clip => exact h.play name clip
  case stop name => exact h.stop name
  case playMusic name clip => exact h.playMusic name clip
  case stopMusic => exact h.stopMusic
  case reap => exact h.reap
  case stopAll => exact h.stopAll
  -- A volume is set, or the output goes on by itself. Nothing is written down.
  all_goals
    refine Told.continues ?_
    exact ⟨h.log, h.balanced, h.tells⟩

/-- The diary of some calls: what each of them writes, under its name. -/
def diary (m : Mixer (Recorded B)) : List (MixerCall R B) → AudioDiary
  | [] => []
  | c :: calls => ((m.hear c).output.log.drop m.output.log.length).map (c.name?, ·) ++
      (m.hear c).diary calls

/-- The diary of calls tells what is held after them. -/
theorem Told.hearAll (h : Told d m) (calls : List (MixerCall R B)) :
    Told (d ++ m.diary calls) (m.hearAll calls) := by
  induction calls generalizing m d with
  | nil => rwa [diary, List.append_nil]
  | cons c calls ih =>
      rcases h.hear c with ⟨events, hnext⟩
      have hwritten : (m.hear c).output.log.drop m.output.log.length = events := by
        rw [← hnext.log, ← h.log]
        simp [AudioDiary.log, Function.comp_def]
      rw [diary, hwritten, ← List.append_assoc]
      exact ih hnext

theorem told_initial (output : B) : Told [] (initial (⟨output, []⟩ : Recorded B)) where
  log := rfl
  balanced := balanced_initial output
  tells := by
    refine fun _ => AudioDiary.tells_nil fun looped name id => ?_
    cases looped with
    | true => exact nofun
    | false => exact List.not_mem_nil

/-- As long as the output gives new numbers, after any calls a name is heard if and only if a
    playback of that name, sound or music, has neither been stopped nor been reported to have
    ended since it was started, or is music that overstays. The music is such a playback that
    was started as music. What is stopped is always one of these, so a sound is never stopped
    after it has been reported. -/
theorem heard_iff_unfinished (output : B) (calls : List (MixerCall R B)) :
    let start : Mixer (Recorded B) := initial ⟨output, []⟩
    let m := start.hearAll calls
    let d := start.diary calls
    AudioLog.Fresh m.output.log →
      d.log = m.output.log ∧
      (∀ name, m.isPlaying name = true ↔
        (∃ looped id, d.Lasts looped name id) ∨ ∃ id, d.Overstays name id) ∧
      (∀ name id, m.music = some (name, id) ↔ d.Lasts true name id ∨ d.Overstays name id) ∧
      ∀ before title id after, d = before ++ (title, .stop id) :: after →
        (∃ looped name, AudioDiary.Lasts before looped name id) ∨
          ∃ name, AudioDiary.Overstays before name id := by
  intro start m d hfresh
  have htold : Told d m := (told_initial output).hearAll calls
  have htells := htold.tells hfresh
  refine ⟨htold.log, fun name => ?_, fun name id => ?_, fun before title id after hd => ?_⟩
  · rw [isPlaying_iff_holds]
    simp [htells.open_iff, AudioDiary.isOpen_iff, exists_or, or_assoc]
  · have hopen := htells.open_iff true name id
    simpa [AudioDiary.isOpen_iff, Holds] using hopen
  · rcases htells.spares before title id after hd with ⟨looped, name, hopen⟩
    rcases AudioDiary.isOpen_iff.1 hopen with hlasts | ⟨_, hoverstays⟩
    · exact .inl ⟨looped, name, hlasts⟩
    · exact .inr ⟨name, hoverstays⟩

/-- A sound ends by itself while music is playing, and both are written down. -/
theorem heard_iff_unfinished_reaped :
    let clip : Asset := ⟨.of "hum", .audio, "audio/wav", 3⟩
    let start : Mixer (Recorded (SilentOutput Float)) := initial ⟨.initial, []⟩
    let calls : List (MixerCall Float (SilentOutput Float)) :=
      [.play "hum" clip, .playMusic "theme" clip, .reap]
    let d : AudioDiary := [(some "hum", .start false (some 1)),
      (some "theme", .start true (some 2)), (none, .drain [1])]
    AudioLog.Fresh (start.hearAll calls).output.log ∧ start.diary calls = d ∧
      ((start.hearAll calls).isPlaying "theme" = true ↔
        (∃ looped id, d.Lasts looped "theme" id) ∨ ∃ id, d.Overstays "theme" id) := by
  intro clip start calls d
  have hfresh : AudioLog.Fresh (start.hearAll calls).output.log := by decide +kernel
  have hdiary : start.diary calls = d := by decide +kernel
  have h := (heard_iff_unfinished SilentOutput.initial calls hfresh).2.1 "theme"
  rw [hdiary] at h
  exact ⟨hfresh, hdiary, h⟩

/-- Music ends by itself. It has been reported, so that no playback of its name lasts, and still
    it is what is heard. The output is asked to stop it after that. -/
theorem heard_after_report :
    let clip : Asset := ⟨.of "hum", .audio, "audio/wav", 3⟩
    let start : Mixer (Recorded (SilentOutput Float)) := initial ⟨.initial, []⟩
    let calls : List (MixerCall Float (SilentOutput Float)) :=
      [.playMusic "theme" clip, .played ⟨1, [1], 0⟩, .reap]
    let m := start.hearAll calls
    (m.isPlaying "theme" = true ∧ m.music = some ("theme", 1)) ∧
      (∀ looped id, ¬ (start.diary calls).Lasts looped "theme" id) ∧
      (start.hearAll (calls ++ [.stopMusic])).output.log =
        [.start true (some 1), .drain [1], .stop 1] := by
  intro clip start calls m
  refine ⟨⟨by decide +kernel, by decide +kernel⟩, ?_, by decide +kernel⟩
  have hdiary : start.diary calls =
      [(some "theme", .start true (some 1)), (none, .drain [1])] := by decide +kernel
  rw [hdiary]
  rintro looped id ⟨since, ⟨before, hd⟩, _, hended⟩
  -- The music is the first thing in the diary, and the report follows it.
  rcases before with _ | ⟨_, before⟩
  · cases hd
    exact hended (List.mem_singleton_self 1)
  · rcases before with _ | ⟨_, _ | _⟩ <;> simp at hd

end Mixer

end Playfield
