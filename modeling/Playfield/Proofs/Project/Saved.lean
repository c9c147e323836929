import Mathlib
import Playfield.Proofs.Project.Finite

/-!
# Saved Projects

What a project that has been loaded and saved is loaded as.

It is loaded as what it was, or it is not loaded at all. A text that is loaded has only
numbers in range in it, so the project is finite, and a finite project comes back from
its document. But a text has a limit of nesting, and the document that is written is not
the one that was read: a list that had been left out is there now, one level below what
had been the innermost object. A document that has been loaded with a level to spare
can be saved and loaded. One that is nested to the limit can be saved, and may then be
nested too deep to be loaded again, since all that is written is looked at by a reader.

Groups in groups are the one way to get there. So the document that cannot be loaded any
more is a chain of groups down to the limit, the last of which says nothing of its nodes.

## Main definitions

* `Project.chainText`: The text of a project with groups in groups.

## Theorems

* `Project.depth_write_le`, `Project.le_depth_write`: A project is nested as its events are.
* `Project.refusesAt_codec`: A project that is nested too deep is refused.
* `Project.load_saved`: What a saved project is loaded as.
* `Project.load_saved_chain`: The chain that is loaded, saved and not loaded.
-/

namespace Playfield

/-! ## Depth -/

section

variable {R : Type} [Scalar R] [Numeral R]

/-- A project is nested at least as deep as its events, in their place. -/
theorem Project.le_depth_write {p : Project R} {s : Scene R} (hs : s ∈ p.scenes) :
    (EventNode.listCodec.write s.events).depth + 3 ≤ (codec.write p).depth := by
  have hscene : (EventNode.listCodec.write s.events).depth + 1 ≤ (Scene.codec.write s).depth :=
    Nat.succ_le_succ (Json.depthMembers_le.1 le_rfl
      ("events", EventNode.listCodec.write s.events)
      (List.mem_append_right _ (List.mem_singleton.2 rfl)))
  have hscenes : (Scene.codec.write s).depth + 1 ≤
      ((Codec.list Scene.codec).write p.scenes).depth :=
    Nat.succ_le_succ (Json.depthItems_le.1 le_rfl _ (List.mem_map_of_mem hs))
  have hproject : ((Codec.list Scene.codec).write p.scenes).depth + 1 ≤ (codec.write p).depth :=
    Nat.succ_le_succ (Json.depthMembers_le.1 le_rfl
      ("scenes", (Codec.list Scene.codec).write p.scenes)
      (List.mem_cons_of_mem _ List.mem_cons_self))
  omega

variable [Numeral.Lawful R]

theorem Scene.depth_write_le {d : Nat} (s : Scene R)
    (h : (EventNode.listCodec.write s.events).depth ≤ d) (hd : 5 ≤ d) :
    (Scene.codec.write s).depth ≤ d + 1 := by
  have hlayers := (Codec.holds_list (Layer.holds_codec 0)).depth_write_le s.layers
  have hobjects := (Codec.holds_list (Object.holds_codec 0)).depth_write_le s.objects
  refine Nat.succ_le_succ (Json.depthMembers_le.2 ?_)
  change ∀ m ∈ [("id", Json.text s.id), ("name", .text s.name),
    ("layers", (Codec.list Layer.codec).write s.layers),
    ("objects", (Codec.list Object.codec).write s.objects),
    ("events", EventNode.listCodec.write s.events)], m.2.depth ≤ d
  simp only [List.forall_mem_cons]
  exact ⟨Nat.zero_le d, Nat.zero_le d, by omega, by omega, h, List.forall_mem_nil _⟩

namespace Project

/-- Apart from the events, nothing in a project is nested by more than eight. -/
theorem depth_write_le {d : Nat} (p : Project R)
    (h : ∀ s ∈ p.scenes, (EventNode.listCodec.write s.events).depth + 3 ≤ d) (hd : 8 ≤ d) :
    (codec.write p).depth ≤ d := by
  -- The deepest of the rest are the frames of animations, in a list eight levels down.
  have hsettings := (Settings.holds_codec (R := R) 0).depth_write_le p.settings
  have hassets := (holds_assetsCodec (R := R) 0).depth_write_le p.sounds
  have hglobals := (Variables.holds_codec (R := R) 0).depth_write_le p.globals
  have hscenes : ((Codec.list Scene.codec).write p.scenes).depth ≤ d - 1 := by
    obtain ⟨e, rfl⟩ : ∃ e, d = e + 3 := ⟨d - 3, by omega⟩
    refine Codec.depth_list_write_le fun s hs => ?_
    exact s.depth_write_le (Nat.le_of_add_le_add_right (h s hs)) (by omega)
  obtain ⟨e, rfl⟩ : ∃ e, d = e + 1 := ⟨d - 1, by omega⟩
  refine Nat.succ_le_succ (Json.depthMembers_le.2 ?_)
  change ∀ m ∈ [("settings", Settings.codec.write p.settings),
    ("scenes", (Codec.list Scene.codec).write p.scenes),
    ("assets", assetsCodec.write p.sounds),
    ("globalVariables", Variables.codec.write p.globals)], m.2.depth ≤ e
  simp only [List.forall_mem_cons]
  exact ⟨by omega, by omega, by omega, by omega, List.forall_mem_nil _⟩

end Project

/-! ## Refusal -/

theorem Scene.refusesAt_codec {around : Nat} (h : around + 6 ≤ Json.depthLimit) :
    (Scene.codec : Codec (Scene R)).RefusesAt around := by
  refine Codec.refusesAt_record (by decide : ["id", "name", "layers", "objects",
    "events"].Nodup) ?_
  refine .field (.written (Codec.refusesAt_list (EventNode.refusesAt_codec _))) ?_
  refine .field (.written ((Codec.holds_list (Object.holds_codec 0)).refusesAt (by omega))) ?_
  refine .field (.written ((Codec.holds_list (Layer.holds_codec 0)).refusesAt (by omega))) ?_
  refine .field (.written ((Codec.holds_text 0).refusesAt (by omega))) ?_
  exact .field (.written ((Codec.holds_text 0).refusesAt (by omega))) .start

namespace Project

/-- A project that is nested too deep is refused. -/
theorem refusesAt_codec : (codec : Codec (Project R)).RefusesAt 0 := by
  refine Codec.refusesAt_record (by decide : ["settings", "scenes", "assets",
    "globalVariables"].Nodup) ?_
  refine .field (.written ((Variables.holds_codec 0).refusesAt (by decide))) ?_
  refine .field (.written ((holds_assetsCodec 0).refusesAt (by decide))) ?_
  refine .field (.written (Codec.refusesAt_list (Scene.refusesAt_codec (by decide)))) ?_
  exact .field (.written ((Settings.holds_codec 0).refusesAt (by decide))) .start

theorem read_write {p : Project R} (hp : p.IsFinite)
    (hd : (codec.write p).depth ≤ Json.depthLimit) : read (write p) = .ok p := by
  have hplain := ((carries_codec (R := R) 0).plain p).isPlain
  rw [read, write, Codec.parse_eq_ok_iff (Json.read_pretty hplain),
    Json.kept_eq_held _ (by omega)]
  exact (carries_codec 0).read_write .text p hp

theorem depth_le_of_read_write {p q : Project R} (h : read (write p) = .ok q) :
    (codec.write p).depth ≤ Json.depthLimit := by
  have hplain := ((carries_codec (R := R) 0).plain p).isPlain
  rw [read, write, Codec.parse_eq_ok_iff (Json.read_pretty hplain)] at h
  have hdepth := refusesAt_codec .text p q h
  omega

/-- What is loaded is finite, and its events are hardly deeper than the text was. -/
theorem of_read {text : String} {p : Project R} (h : read text = .ok p) :
    p.IsFinite ∧ ∀ s ∈ p.scenes,
      (EventNode.listCodec.write s.events).depth + 3 ≤ (Json.read text).root.depth + 1 :=
  (carries_codec _).of_read .text _ p ⟨Json.inRange_read text, Nat.lt_succ_self _⟩
    (Codec.read_of_parse h)

end Project

end

/-! ## A chain of groups -/

namespace EventNode

/-- A chain of groups, one in the other. -/
def chain : Nat → EventNode Float
  | 0 => .group "g" "" none false []
  | n + 1 => .group "g" "" none false [chain n]

/-- The tree of a chain in which the innermost group says nothing of its nodes. -/
def chainTree : Nat → Json
  | 0 => .object [("type", .text "group"), ("id", .text "g")]
  | n + 1 => .object [("type", .text "group"), ("id", .text "g"), ("events", .list [chainTree n])]

theorem isPlain_chainTree (n : Nat) : (chainTree n).IsPlain := by
  induction n with
  | zero =>
      refine .object ?_
      simp only [List.forall_mem_cons]
      exact ⟨.text _, .text _, List.forall_mem_nil _⟩
  | succ n ih =>
      refine .object ?_
      simp only [List.forall_mem_cons]
      exact ⟨.text _, .text _, .list (List.forall_mem_singleton.2 ih), List.forall_mem_nil _⟩

theorem held_chainTree (n : Nat) : (chainTree n).held = chainTree n := by
  induction n with
  | zero => rfl
  | succ n ih => simp only [chainTree, Json.held, Json.heldMembers, Json.heldItems, ih]

theorem depth_chainTree (n : Nat) : (chainTree n).depth = 2 * n + 1 := by
  induction n with
  | zero => rfl
  | succ n ih =>
      simp only [chainTree, Json.depth, Json.depthMembers, Json.depthItems, ih]
      omega

theorem lt_depth_chain (n : Nat) : n < (chain n).depth := by
  induction n with
  | zero => exact Nat.one_pos
  | succ n ih => exact Nat.succ_lt_succ (ih.trans_le (le_max_left _ _))

theorem depth_write_chain {n d : Nat} (hd : n < d) :
    ((codecTo d).write (chain n)).depth = 2 * n + 2 := by
  induction n generalizing d with
  | zero =>
      obtain ⟨d, rfl⟩ : ∃ e, d = e + 1 := ⟨d - 1, by omega⟩
      rfl
  | succ n ih =>
      obtain ⟨d, rfl⟩ : ∃ e, d = e + 1 := ⟨d - 1, by omega⟩
      rw [chain, depth_write_group]
      change (max ((codecTo d).write (chain n)).depth 0 + 1) + 1 = _
      rw [ih (by omega)]
      omega

/-- One more link around what has been read. -/
theorem read_link {c : Codec (EventNode Float)} {j : Json} {n : EventNode Float}
    (hplain : j.IsPlain) (hread : c.read .kept j = .ok n) (src : Source) :
    (Codec.tagged (variants c)).read src
      (.object [("type", .text "group"), ("id", .text "g"), ("events", .list [j])]) =
        .ok (.group "g" "" none false [n]) := by
  have hlist : c.list.read .kept (.list [j]) = .ok [n] := by
    change Codec.readAll (c.read .kept) [j] = _
    rw [Codec.readAll, hread]
    rfl
  have hevents : Numbered.read "events" (some []) (c.list.read .kept)
      [(1, "id", .text "g"), (2, "events", .list [j])] = .ok [n] :=
    Numbered.read_of_spells (Numbered.spells_ofMembers
      [("type", .text "group"), ("id", .text "g"), ("events", .list [j])] "events") rfl hlist
  have hfields : (groupFields c).readMembers .kept
      [(1, "id", .text "g"), (2, "events", .list [j])] = .ok (.group "g" "" none false [n]) := by
    unfold groupFields Fields.defaulting
    rw [Fields.Carries.readMembers_field_ok]
    exact ⟨.group "g" "" none false, [n], rfl, hevents, rfl⟩
  refine Codec.readTagged_eq_ok (v := .of "group" _ (groupFields c)) rfl
    (Numbered.all_ofMembers ?_) hfields
  simp only [List.forall_mem_cons]
  exact ⟨.text _, .text _, .list (List.forall_mem_singleton.2 hplain), List.forall_mem_nil _⟩

/-- A chain is read link by link. -/
theorem read_chainTree {n d : Nat} (hd : n < d) (src : Source) :
    (codecTo d).read src (chainTree n) = .ok (chain n) := by
  -- On the links. The inner ones are read from what was put aside for the outer one, so the
  -- source is not the same all the way down.
  induction n generalizing d src with
  | zero =>
      obtain ⟨d, rfl⟩ : ∃ e, d = e + 1 := ⟨d - 1, by omega⟩
      rfl
  | succ n ih =>
      obtain ⟨d, rfl⟩ : ∃ e, d = e + 1 := ⟨d - 1, by omega⟩
      exact read_link (isPlain_chainTree n) (ih (by omega) .kept) src

end EventNode

namespace Project

/-- A project with a scene in which there is a chain and nothing else. -/
def chain (n : Nat) : Project Float :=
  ⟨.initial, [⟨"s", "", [], [], [EventNode.chain n]⟩], [], .empty⟩

/-- The scene of a chain, in as few words as possible. -/
def chainScene (n : Nat) : Json :=
  .object [("id", .text "s"), ("events", .list [EventNode.chainTree n])]

/-- The document of a chain, in as few words as possible. -/
def chainDocument (n : Nat) : Json := .object [("scenes", .list [chainScene n])]

/-- The text of a chain. -/
def chainText (n : Nat) : String := (chainDocument n).compact

theorem isPlain_chainDocument (n : Nat) : (chainDocument n).IsPlain := by
  refine .object (List.forall_mem_singleton.2 (.list (List.forall_mem_singleton.2 ?_)))
  refine .object ?_
  simp only [List.forall_mem_cons]
  exact ⟨.text _, .list (List.forall_mem_singleton.2 (EventNode.isPlain_chainTree n)),
    List.forall_mem_nil _⟩

theorem held_chainDocument (n : Nat) : (chainDocument n).held = chainDocument n := by
  simp only [chainDocument, chainScene, Json.held, Json.heldMembers, Json.heldItems,
    EventNode.held_chainTree]

theorem depth_chainDocument (n : Nat) : (chainDocument n).depth = 2 * n + 5 := by
  simp only [chainDocument, chainScene, Json.depth, Json.depthMembers, Json.depthItems,
    EventNode.depth_chainTree]
  omega

theorem read_chainScene (n : Nat) (src : Source) : Scene.codec.read src (chainScene n) =
    .ok (⟨"s", "", [], [], [EventNode.chain n]⟩ : Scene Float) := by
  have hnode : EventNode.codec.read src (EventNode.chainTree n) = .ok (EventNode.chain n) :=
    EventNode.read_chainTree (by rw [EventNode.depth_chainTree]; omega) src
  have hlist : EventNode.listCodec.read src (.list [EventNode.chainTree n]) =
      .ok [EventNode.chain n] := by
    change Codec.readAll (EventNode.codec.read src) [EventNode.chainTree n] = _
    rw [Codec.readAll, hnode]
    rfl
  refine Codec.read_record_object ?_ rfl
  unfold Fields.defaulting
  rw [Fields.Carries.readMembers_field_ok]
  exact ⟨Scene.mk "s" "" [] [], [EventNode.chain n], rfl,
    Numbered.read_of_spells (Numbered.spells_ofMembers _ "events") rfl hlist, rfl⟩

theorem read_chainDocument (n : Nat) (src : Source) :
    codec.read src (chainDocument n) = .ok (chain n) := by
  have hlist : (Codec.list Scene.codec).read src (.list [chainScene n]) =
      .ok [(⟨"s", "", [], [], [EventNode.chain n]⟩ : Scene Float)] := by
    change Codec.readAll (Scene.codec.read src) [chainScene n] = _
    rw [Codec.readAll, read_chainScene]
    rfl
  refine Codec.read_record_object ?_ rfl
  unfold Fields.defaulting
  rw [Fields.Carries.readMembers_field_ok]
  refine ⟨Project.mk _ _ _, .empty, ?_, rfl, rfl⟩
  rw [Fields.Carries.readMembers_field_ok]
  refine ⟨Project.mk _ _, [], ?_, rfl, rfl⟩
  rw [Fields.Carries.readMembers_field_ok]
  exact ⟨Project.mk .initial, _, rfl,
    Numbered.read_of_spells (Numbered.spells_ofMembers _ "scenes") rfl hlist, rfl⟩

theorem document_chainText {n : Nat} (hn : n ≤ 61) :
    Json.read (chainText n) = ⟨chainDocument n, false⟩ := by
  have hdepth : (chainDocument n).depth ≤ Json.depthLimit := by
    rw [depth_chainDocument, Json.depthLimit]
    omega
  rw [chainText, Json.read_compact (isPlain_chainDocument n) hdepth, held_chainDocument]

/-- A chain of so many links can be loaded. -/
theorem read_chainText {n : Nat} (hn : n ≤ 61) : read (chainText n) = .ok (chain n) :=
  (Codec.parse_eq_ok_iff (document_chainText hn) (chain n)).2 (read_chainDocument n .text)

/-- A chain that is written is deeper by one level, that of the nodes of the innermost group. -/
theorem lt_depth_write_chain (n : Nat) : 2 * n + 5 < (codec.write (chain n)).depth := by
  have hnode : (EventNode.codec.write (EventNode.chain n)).depth = 2 * n + 2 :=
    EventNode.depth_write_chain (EventNode.lt_depth_chain n)
  have hlist : (EventNode.listCodec.write [EventNode.chain n]).depth =
      (EventNode.codec.write (EventNode.chain n)).depth + 1 := by
    change max (EventNode.codec.write (EventNode.chain n)).depth 0 + 1 = _
    rw [max_eq_left (Nat.zero_le _)]
  have hproject : (EventNode.listCodec.write [EventNode.chain n]).depth + 3 ≤
      (codec.write (chain n)).depth :=
    le_depth_write (s := ⟨"s", "", [], [], [EventNode.chain n]⟩) List.mem_cons_self
  omega

/-! ## Loading what has been saved -/

/-- A project that has been loaded and saved is loaded as what it was, or not at all. It is
    loaded exactly if its document is not nested too deep, and this is so if the document
    it has been loaded from has left a level to spare. -/
theorem load_saved (text : String) (p : Project Float) (h : read text = .ok p) :
    (∀ q, read (write p) = .ok q ↔ q = p ∧ (codec.write p).depth ≤ Json.depthLimit) ∧
      ((Json.read text).root.depth < Json.depthLimit →
        (codec.write p).depth ≤ Json.depthLimit) := by
  have hp := of_read h
  refine ⟨fun q => ⟨fun hq => ?_, ?_⟩, fun hd => ?_⟩
  · -- Whatever is read back says that the document was not too deep, and then it is the project.
    have hd := depth_le_of_read_write hq
    rw [read_write hp.1 hd] at hq
    exact ⟨(Except.ok.inj hq).symm, hd⟩
  · rintro ⟨rfl, hd⟩
    exact read_write hp.1 hd
  · exact depth_write_le p (fun s hs => (hp.2 s hs).trans hd) (by decide)

/-- A chain with one link less comes back. -/
theorem load_saved_of_shorter_chain :
    read (chainText 60) = .ok (chain 60) ∧ read (write (chain 60)) = .ok (chain 60) := by
  have hread : read (chainText 60) = .ok (chain 60) := read_chainText (by decide)
  have hspare : (Json.read (chainText 60)).root.depth < Json.depthLimit := by
    rw [document_chainText (by decide), depth_chainDocument]
    decide
  have hsaved := load_saved (chainText 60) (chain 60) hread
  exact ⟨hread, (hsaved.1 (chain 60)).2 ⟨rfl, hsaved.2 hspare⟩⟩

/-- The longest chain that can be loaded cannot be loaded again once it has been saved. -/
theorem load_saved_chain :
    read (chainText 61) = .ok (chain 61) ∧
      ∀ q : Project Float, read (write (chain 61)) ≠ .ok q := by
  refine ⟨read_chainText le_rfl, fun q hq => ?_⟩
  have hdepth := (lt_depth_write_chain 61).trans_le (depth_le_of_read_write hq)
  exact absurd hdepth (by decide)

end Project

end Playfield
