import Mathlib
import Playfield.Proofs.Roster.Doomed

/-!
# What Waits

Spawns and destructions that are noted, and what becomes of them.

Between two moments at which nothing waits, a roster is asked to note new instances, to note
destructions and to answer questions, in any order and as often as one likes. All of these are
requests here, and a list of requests is served one after the other. The questions are answered
as if nothing had been noted. What has been noted takes effect later and all at once, and what
comes of it is told by the requests alone: by the list of the new instances, and by the set of
the ids to be destroyed. An id that is noted for destruction does not reach an instance that is
noted as new, whichever of the two comes first.

## Main definitions

* `Roster.Query`, `Roster.answer`: Questions, and their answers.
* `Roster.Request`, `Roster.serve`, `Roster.serveAll`: What is asked of a roster.
* `Roster.Renewal`, `Roster.renew`: How a roster comes about in which nothing waits.
* `Roster.Defers`: What becomes of requests.

## Theorems

* `Roster.fst_serve`, `Roster.snd_serve`: What one request does.
* `Roster.fst_serveAll`, `Roster.snd_serveAll`: What all of them do.
* `Roster.pendingCounts_eq`: As many instances are removed as are to be destroyed.
* `Roster.renew_defers`: Requests wait, and then they take effect together.
-/

namespace Playfield

namespace Roster

/-- What can be asked of a roster. -/
inductive Query where
  | get (id : String)
  | index (id : String)
  | named (name : String)
  | count
  | all

/-- What is answered. -/
inductive Answer (R : Type) where
  | found (i : Option (Instance R))
  | place (k : Option Nat)
  | instances (is : List (Instance R))
  | count (n : Nat)

/-- What a roster is asked to do before what waits takes effect. -/
inductive Request (R : Type) where
  | spawn (i : Instance R)
  | destroy (id : String)
  | ask (q : Query)

namespace Request

variable {R : Type}

/-- The new instance that is to be noted. -/
def spawn? : Request R → Option (Instance R)
  | .spawn i => some i
  | _ => none

/-- The id of which a destruction is to be noted. -/
def destroy? : Request R → Option String
  | .destroy id => some id
  | _ => none

/-- The question that is asked. -/
def query? : Request R → Option Query
  | .ask q => some q
  | _ => none

end Request

variable {R : Type}

/-- The answer to a question. -/
def answer (r : Roster R) : Query → Answer R
  | .get id => .found (r.get? id)
  | .index id => .place (r.index? id)
  | .named name => .instances (r.withName name)
  | .count => .count r.live.length
  | .all => .instances r.live

/-- Does what is requested. Only a question has an answer. -/
def serve (r : Roster R) : Request R → Roster R × Option (Answer R)
  | .spawn i => (r.queueSpawn i, none)
  | .destroy id => (r.queueDestroy id, none)
  | .ask q => (r, some (r.answer q))

/-- Does what is requested, one request after the other. -/
def serveAll : List (Request R) → Roster R → Roster R × List (Answer R)
  | [], r => (r, [])
  | q :: qs, r =>
    let (r, a) := r.serve q
    let (r, as) := serveAll qs r
    (r, a.toList ++ as)

/-- How a roster comes about in which nothing waits. -/
inductive Renewal (R : Type) where
  /-- A scene is entered. -/
  | scene (s : Scene R)
  /-- Other instances take the place of the live ones. -/
  | live (is : List (Instance R))
  /-- What waits is dropped. -/
  | discard
  /-- What waits takes effect. -/
  | apply

/-- The roster after a renewal. -/
def renew [Scalar R] (r : Roster R) : Renewal R → Roster R
  | .scene s => .ofScene s
  | .live is => .ofLive is
  | .discard => r.discardPending
  | .apply => r.applyPending

/-- Requests that are served by a roster only wait, and then they take effect together. -/
structure Defers (r : Roster R) (requests : List (Request R)) : Prop where
  /-- Questions are answered by the roster as it was before. -/
  answers : (serveAll requests r).2 = (requests.filterMap Request.query?).map r.answer
  /-- Then those live on that were never to be destroyed, the new ones come behind them, and
      nothing waits. -/
  applied : (serveAll requests r).1.applyPending = .ofLive
    (r.live.filter (fun i => i.id ∉ requests.filterMap Request.destroy?) ++
      requests.filterMap Request.spawn?)
  spawned : (serveAll requests r).1.pendingCounts.1 = (requests.filterMap Request.spawn?).length
  removed : (serveAll requests r).1.pendingCounts.2 =
    (r.live.filter fun i => i.id ∈ requests.filterMap Request.destroy?).length
  /-- Only the order of the new instances is of importance, and which ids are to be destroyed. -/
  alike : ∀ others : List (Request R),
    others.filterMap Request.spawn? = requests.filterMap Request.spawn? →
      (∀ id, id ∈ others.filterMap Request.destroy? ↔ id ∈ requests.filterMap Request.destroy?) →
        (serveAll others r).1.applyPending = (serveAll requests r).1.applyPending ∧
          (serveAll others r).1.pendingCounts = (serveAll requests r).1.pendingCounts

/-- One request leaves the live instances alone and notes what it names. -/
theorem fst_serve (r : Roster R) (q : Request R) : (r.serve q).1 =
    ⟨r.live, r.spawns ++ q.spawn?.toList, r.destroys ++ q.destroy?.toList⟩ := by
  cases q with
  | spawn i => simp [serve, queueSpawn, Request.spawn?, Request.destroy?]
  | destroy id => simp [serve, queueDestroy, Request.spawn?, Request.destroy?]
  | ask q => simp [serve, Request.spawn?, Request.destroy?]

theorem snd_serve (r : Roster R) (q : Request R) : (r.serve q).2 = q.query?.map r.answer := by
  cases q <;> rfl

/-- What waits has no part in an answer. -/
theorem answer_congr {r r' : Roster R} (h : r'.live = r.live) : r'.answer = r.answer := by
  funext q
  cases q <;> simp only [answer, get?, index?, withName, h]

theorem fst_serveAll (requests : List (Request R)) (r : Roster R) : (serveAll requests r).1 =
    ⟨r.live, r.spawns ++ requests.filterMap Request.spawn?,
      r.destroys ++ requests.filterMap Request.destroy?⟩ := by
  induction requests generalizing r with
  | nil => simp [serveAll]
  | cons q qs ih =>
      have hone := r.fst_serve q
      simp only [serveAll]
      rw [ih, hone]
      cases q <;> simp [List.filterMap_cons, Request.spawn?, Request.destroy?]

theorem snd_serveAll (requests : List (Request R)) (r : Roster R) :
    (serveAll requests r).2 = (requests.filterMap Request.query?).map r.answer := by
  induction requests generalizing r with
  | nil => rfl
  | cons q qs ih =>
      -- The rest is answered by a roster of the same live instances.
      have hlive : (r.serve q).1.live = r.live := by rw [fst_serve]
      simp only [serveAll]
      rw [ih, answer_congr hlive, snd_serve]
      cases q <;> simp [List.filterMap_cons, Request.query?]

/-- As many instances are removed as are to be destroyed. -/
theorem pendingCounts_eq (r : Roster R) : r.pendingCounts =
    (r.spawns.length, (r.live.filter fun i => i.id ∈ r.destroys).length) := by
  have hsplit := r.live.length_eq_length_filter_add fun i => decide (i.id ∈ r.destroys)
  have hrest : r.survivors = r.live.filter fun i => !decide (i.id ∈ r.destroys) := by
    rw [survivors_eq]
    exact List.filter_congr fun i _ => by rw [List.contains_eq_mem]
  rw [pendingCounts, hrest]
  congr 1
  omega

theorem applyPending_eq (r : Roster R) : r.applyPending =
    .ofLive (r.live.filter (fun i => i.id ∉ r.destroys) ++ r.spawns) := by
  have hlive : r.survivors = r.live.filter fun i => i.id ∉ r.destroys := by
    rw [survivors_eq]
    exact List.filter_congr fun i _ => by rw [List.contains_eq_mem, decide_not]
  rw [applyPending, hlive]

/-- A list of requests is deferred by a roster in which nothing waits. -/
theorem defers (r : Roster R) (hspawns : r.spawns = []) (hdestroys : r.destroys = [])
    (requests : List (Request R)) : r.Defers requests := by
  have hserved (qs : List (Request R)) : (serveAll qs r).1 =
      ⟨r.live, qs.filterMap Request.spawn?, qs.filterMap Request.destroy?⟩ := by
    rw [fst_serveAll, hspawns, hdestroys, List.nil_append, List.nil_append]
  refine ⟨snd_serveAll requests r, ?_, ?_, ?_, ?_⟩
  · rw [hserved, applyPending_eq]
  · rw [hserved, pendingCounts_eq]
  · rw [hserved, pendingCounts_eq]
  · intro others hsame hids
    rw [hserved, hserved, applyPending_eq, applyPending_eq, pendingCounts_eq, pendingCounts_eq]
    simp only [hsame, hids, and_self]

/-- Whatever is requested of a roster after a renewal waits: questions are answered as if
    nothing had been noted, and then all spawns and destructions take effect at once. -/
theorem renew_defers [Scalar R] (r : Roster R) (n : Renewal R) (requests : List (Request R)) :
    (r.renew n).Defers requests := by
  have hnothing : (r.renew n).spawns = [] ∧ (r.renew n).destroys = [] := by
    cases n <;> exact ⟨rfl, rfl⟩
  exact defers _ hnothing.1 hnothing.2 requests

end Roster

end Playfield
