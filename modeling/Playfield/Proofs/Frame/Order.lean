import Mathlib
import Playfield.Frame.Basic
import Playfield.Proofs.Lint.Census
import Playfield.Proofs.Session.Reachable

/-!
# The Order of a Frame

What is painted, how often, and in which order.

A frame is painted by two loops, over the layers and over the roster, and a drawable comes from a
spot: the index of a layer and a place in the roster. A list of drawables is a painting if it comes
from ascending spots, first by layer and then by place, and these are the spots of the visible
instances (`Session.IsPainting`). No spot is passed twice, so how often an instance is painted is
a question of how many layers it stands on.

An instance knows its layer by name. Where layers are looked up, a name stands for the first layer
that has it. The loops compare names, so that here a name stands for every layer that has it. As
long as each name of a visible instance is the name of one layer these are the same, and every
visible instance on a layer of the scene is painted once. If some name is used twice they are not,
and its instances are painted twice. Checking a document does not rule that out: it asks for
distinct ids of scenes, objects and events, and for layers that exist, but not for distinct names
of layers.

## Main definitions

* `Scene.Names`: A name is the name of a layer.
* `Session.drawableAt?`: The drawable of a spot.
* `Session.IsPainting`: Drawables come from the visible instances in the order of their spots.

## Theorems

* `Scene.names_of_layerIndex?`, `Scene.exists_layerIndex?`: Looking up a name.
* `Session.isPainting_frame`: A frame paints every layer of every name.
* `Session.layerIndex?_of_isPainting`: Painted once, an instance stands on one layer only.
* `Session.frame_paints_once_iff`: When a frame paints every instance once.
* `Session.frame_paints_twice`: A clean project of which an instance is painted twice.
-/

namespace Playfield

namespace Scene

variable {R : Type} {s : Scene R} {name : String} {index : Nat}

/-- The layer of an index has a name. -/
def Names (s : Scene R) (name : String) (index : Nat) : Prop :=
  ∃ layer, s.layers[index]? = some layer ∧ layer.name = name

theorem names_of_layerIndex? (h : s.layerIndex? name = some index) : s.Names name index := by
  rcases List.findIdx?_eq_some_iff_getElem.1 h with ⟨hlt, hname, -⟩
  exact ⟨_, List.getElem?_eq_getElem hlt, beq_iff_eq.1 hname⟩

/-- If a layer has a name then looking it up finds one that has it. -/
theorem exists_layerIndex? (h : s.Names name index) :
    ∃ first, s.layerIndex? name = some first := by
  rcases h with ⟨layer, hlayer, hname⟩
  rw [← Option.isSome_iff_exists, layerIndex?, List.findIdx?_isSome, List.any_eq_true]
  exact ⟨layer, List.mem_of_getElem? hlayer, beq_iff_eq.2 hname⟩

end Scene

namespace Session

variable {R B : Type} {s : Session R B}

/-- The spots of a layer. -/
def spotsOn (s : Session R B) (layer : Layer R) (index : Nat) : List (Nat × Nat) :=
  (s.roster.live.zipIdx.filter fun p =>
    p.1.object.visible && p.1.object.layer == layer.name).map fun p => (index, p.2)

theorem mem_spotsOn {layer : Layer R} {index : Nat} {spot : Nat × Nat} :
    spot ∈ s.spotsOn layer index ↔ spot.1 = index ∧ ∃ i, s.roster.live[spot.2]? = some i ∧
      i.object.visible = true ∧ i.object.layer = layer.name := by
  simp only [spotsOn, List.mem_map, List.mem_filter, Prod.exists, Bool.and_eq_true, beq_iff_eq,
    List.mk_mem_zipIdx_iff_getElem?]
  constructor
  · rintro ⟨i, k, ⟨hi, hdrawn⟩, rfl⟩
    exact ⟨rfl, i, hi, hdrawn⟩
  · rintro ⟨rfl, i, hi, hdrawn⟩
    exact ⟨i, spot.2, ⟨hi, hdrawn⟩, rfl⟩

/-- They come in the order of the roster. -/
theorem sorted_spotsOn (s : Session R B) (layer : Layer R) (index : Nat) :
    (s.spotsOn layer index).Pairwise (Prod.Lex (· < ·) (· < ·)) := by
  rw [spotsOn, List.pairwise_map]
  refine List.Pairwise.imp ?_ ((sorted_zipIdx s.roster.live).filter _)
  exact fun hlt => Prod.Lex.right index hlt

variable [Scalar R] [Numeral R]

/-- The drawable of a spot: of the instance at a place of the roster, on the layer of an index. -/
def drawableAt? (s : Session R B) (spot : Nat × Nat) : Option (Drawable R) :=
  s.scene.layers[spot.1]?.bind fun layer => s.roster.live[spot.2]?.map (s.drawable spot.1 layer)

/-- Drawables come from spots in ascending order, and these are the spots of the visible
    instances. On which layers an instance stands is a question of the name of its layer. -/
def IsPainting (s : Session R B) (stands : String → Nat → Prop) (ds : List (Drawable R)) : Prop :=
  ∃ spots : List (Nat × Nat), spots.map s.drawableAt? = ds.map some ∧
    spots.Pairwise (Prod.Lex (· < ·) (· < ·)) ∧
    ∀ index k, (index, k) ∈ spots ↔ ∃ i, s.roster.live[k]? = some i ∧
      i.object.visible = true ∧ stands i.object.layer index

theorem layer_of_drawableAt? {spot : Nat × Nat} {d : Drawable R}
    (h : s.drawableAt? spot = some d) : d.layer = spot.1 := by
  rcases Option.bind_eq_some_iff.1 h with ⟨layer, -, h⟩
  rcases Option.map_eq_some_iff.1 h with ⟨i, -, rfl⟩
  rfl

theorem IsPainting.congr {stands stands' : String → Nat → Prop} {ds : List (Drawable R)}
    (h : s.IsPainting stands ds)
    (heq : ∀ i ∈ s.roster.live, i.object.visible = true →
      ∀ index, stands i.object.layer index ↔ stands' i.object.layer index) :
    s.IsPainting stands' ds := by
  rcases h with ⟨spots, hspots, hsorted, hmem⟩
  refine ⟨spots, hspots, hsorted, fun index k => (hmem index k).trans ?_⟩
  refine exists_congr fun i => and_congr_right fun hi => and_congr_right fun hvisible => ?_
  exact heq i (List.mem_of_getElem? hi) hvisible index

/-- What is drawn on a layer comes from its spots. -/
theorem map_drawableAt?_spotsOn {layer : Layer R} {index : Nat}
    (hlayer : s.scene.layers[index]? = some layer) :
    (s.spotsOn layer index).map s.drawableAt? =
      ((s.drawn layer).map (s.drawable index layer)).map some := by
  have hdrawn : s.drawn layer = (s.roster.live.zipIdx.filter fun p =>
      p.1.object.visible && p.1.object.layer == layer.name).map (·.1) := by
    have hlive := List.zipIdx_map_fst 0 s.roster.live
    conv_lhs => rw [drawn, ← hlive, List.filter_map]
    rfl
  rw [spotsOn, hdrawn, List.map_map, List.map_map, List.map_map]
  refine List.map_congr_left fun p hp => ?_
  have hi := List.mk_mem_zipIdx_iff_getElem?.1 (List.mem_of_mem_filter hp)
  simp only [Function.comp_apply, drawableAt?, hlayer, Option.bind_some, hi, Option.map_some]

/-- A frame paints every visible instance on every layer of its name. -/
theorem isPainting_frame (s : Session R B) :
    s.IsPainting s.scene.Names s.frame.drawables := by
  have hlayer {l : Layer R × Nat} (hl : l ∈ s.scene.layers.zipIdx) :
      s.scene.layers[l.2]? = some l.1 := List.mk_mem_zipIdx_iff_getElem?.1 hl
  refine ⟨s.scene.layers.zipIdx.flatMap fun l => s.spotsOn l.1 l.2, ?_, ?_, fun index k => ?_⟩
  · rw [frame, List.map_flatMap, List.map_flatMap]
    exact List.flatMap_congr fun l hl => map_drawableAt?_spotsOn (hlayer hl)
  · rw [List.pairwise_flatMap]
    -- On one layer the places ascend. Between two of them the indices of the layers decide.
    refine ⟨fun l _ => s.sorted_spotsOn l.1 l.2, ?_⟩
    refine (sorted_zipIdx s.scene.layers).imp fun hlt p hp q hq => ?_
    exact Prod.lex_iff.2 (.inl (by rwa [(mem_spotsOn.1 hp).1, (mem_spotsOn.1 hq).1]))
  · rw [List.mem_flatMap]
    constructor
    · rintro ⟨l, hl, hspot⟩
      rcases mem_spotsOn.1 hspot with ⟨hindex, i, hi, hvisible, hname⟩
      cases hindex
      exact ⟨i, hi, hvisible, l.1, hlayer hl, hname.symm⟩
    · rintro ⟨i, hi, hvisible, layer, hindex, hname⟩
      exact ⟨(layer, index), List.mk_mem_zipIdx_iff_getElem?.2 hindex,
        mem_spotsOn.2 ⟨rfl, i, hi, hvisible, hname.symm⟩⟩

/-- If a frame paints every instance on the first layer of its name only then there is no other
    layer of the name. -/
theorem layerIndex?_of_isPainting {i : Instance R} {index : Nat}
    (h : s.IsPainting (fun name index => s.scene.layerIndex? name = some index) s.frame.drawables)
    (hi : i ∈ s.roster.live) (hvisible : i.object.visible = true)
    (hnames : s.scene.Names i.object.layer index) :
    s.scene.layerIndex? i.object.layer = some index := by
  rcases h with ⟨spots, hspots, -, hmem⟩
  rcases s.isPainting_frame with ⟨all, hall, -, hmemAll⟩
  rcases List.getElem?_of_mem hi with ⟨k, hk⟩
  -- The instance is painted on the layer, so some instance is painted there on the first layer of
  -- its name. Both have the name of that layer.
  have hdrawn : s.drawableAt? (index, k) ∈ s.frame.drawables.map some := by
    rw [← hall]
    exact List.mem_map_of_mem ((hmemAll index k).2 ⟨i, hk, hvisible, hnames⟩)
  rcases List.mem_map.1 hdrawn with ⟨d, -, hd⟩
  rw [← hspots, ← hd] at hdrawn
  rcases List.mem_map.1 hdrawn with ⟨spot, hspot, hspotd⟩
  have hindex : spot.1 = index :=
    (layer_of_drawableAt? hspotd).symm.trans (layer_of_drawableAt? hd.symm)
  rcases (hmem spot.1 spot.2).1 hspot with ⟨j, -, -, hj⟩
  rw [hindex] at hj
  rcases hnames with ⟨layer, hlayer, hname⟩
  rcases Scene.names_of_layerIndex? hj with ⟨layer', hlayer', hname'⟩
  have hsame : layer = layer' := Option.some.inj (hlayer.symm.trans hlayer')
  rwa [← hname, hsame, hname']

/-- A frame paints every visible instance once for each layer that has the name of the instance's
    layer, layer after layer and on a layer in the order of the roster. It paints each of them
    once, on the layer that is found under the name, if and only if no visible instance has a
    layer whose name is the name of two. -/
theorem frame_paints_once_iff (s : Session R B) :
    s.IsPainting s.scene.Names s.frame.drawables ∧
      (s.IsPainting (fun name index => s.scene.layerIndex? name = some index) s.frame.drawables ↔
        ∀ i ∈ s.roster.live, i.object.visible = true → ∀ j k,
          s.scene.Names i.object.layer j → s.scene.Names i.object.layer k → j = k) := by
  refine ⟨s.isPainting_frame, fun h i hi hvisible j k hj hk => ?_, fun h => ?_⟩
  · have hj := layerIndex?_of_isPainting h hi hvisible hj
    have hk := layerIndex?_of_isPainting h hi hvisible hk
    exact Option.some.inj (hj.symm.trans hk)
  · refine s.isPainting_frame.congr fun i hi hvisible index => ⟨fun hindex => ?_, fun hindex => ?_⟩
    · rcases Scene.exists_layerIndex? hindex with ⟨first, hfirst⟩
      rwa [h i hi hvisible index first hindex (Scene.names_of_layerIndex? hfirst)]
    · exact Scene.names_of_layerIndex? hindex

end Session

/-- A project with two layers of one name, and with an object on the layer of that name. -/
def Project.doubled : Project Float :=
  ⟨.initial, [⟨"main", "Main", [⟨"Main", true, ⟨1, 1⟩⟩, ⟨"Main", true, ⟨1, 1⟩⟩],
    [⟨"hero", "Hero", .zero, ⟨1, 1⟩, 1, 0, .empty, "Main", true, .empty, [], [],
      .sprite ⟨none, [], none⟩⟩], []⟩], [], .empty⟩

/-- Nothing is wrong with it, but the object is painted on both layers. -/
theorem Session.frame_paints_twice :
    Project.doubled.lint = [] ∧ ∃ s : Session Float (SilentOutput Float),
      start .doubled (.ofSettings .initial) (.memory .empty) .initial
        ⟨fun _ => "", fun _ => 0, 0, 0⟩ = .ok s ∧
      (s.run [.enter none]).frame.drawables.map (fun d => (d.id, d.layer)) =
        [("hero", 0), ("hero", 1)] ∧
      ¬ (s.run [.enter none]).IsPainting
        (fun name index => (s.run [.enter none]).scene.layerIndex? name = some index)
        (s.run [.enter none]).frame.drawables := by
  refine ⟨rfl, _, rfl, rfl, fun h => ?_⟩
  have hnames : Scene.Names (Project.doubled.scenes[0]) "Main" 1 := ⟨_, rfl, rfl⟩
  have hsecond := layerIndex?_of_isPainting h (List.mem_singleton_self _) rfl hnames
  exact absurd hsecond (by decide)

end Playfield
