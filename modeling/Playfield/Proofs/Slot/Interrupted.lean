import Mathlib
import Playfield.Proofs.Slot.Apart

/-!
# Interrupted Writes

What is in a slot when writing to it has been interrupted.

A text and its digest are two files, and each of them is replaced in one step, but
not both in one. Between the two steps the new text lies beside the old digest.
So there are three kinds of points at which a write can end, whether the program
stops there or the file system refuses to go on: before the first replacement,
where the old text is read; after the second, where the new text is read; and in
between, where the old digest decides (`SlotFiles.verdict`). It accepts the new
text if there is no digest, or the old text had the same one. Otherwise the slot
is corrupt, with neither of the two texts to be had.

So a write can be interrupted without harm where the slot is a new one, but not
where it is overwritten (`SlotFiles.verdict_of_other`).

## Theorems

* `SlotFiles.verdict_of_none`, `SlotFiles.verdict_of_other`: Without a digest the new text is
  taken, and the digest of another text refuses it.
* `SlotFiles.get_interrupted`: What is read after each number of steps.
* `SlotFiles.set_interrupted`: When all of them leave the old or the new text.
-/

namespace Playfield

namespace Text

theorem dropWhile_blank {cs : List Char} (h : ∀ c ∈ cs, CharClass.blank.mem c = false) :
    cs.dropWhile CharClass.blank.mem = cs := by
  cases cs with
  | nil => rfl
  | cons c cs => rw [List.dropWhile_cons, if_neg (by simp [h c List.mem_cons_self])]

/-- A text without blanks has none at its ends. -/
theorem trim_of_not_blank {cs : List Char} (h : ∀ c ∈ cs, CharClass.blank.mem c = false) :
    trim cs = cs := by
  have hback : ∀ c ∈ cs.reverse, CharClass.blank.mem c = false := by
    intro c hc
    exact h c (List.mem_reverse.1 hc)
  unfold trim
  rw [dropWhile_blank h, dropWhile_blank hback, List.reverse_reverse]

end Text

namespace Sha256

theorem not_blank_digitChar : ∀ d < 16, CharClass.blank.mem (Nat.digitChar d) = false := by decide

/-- A digest is read as it was written. -/
theorem trim_hex (text : String) : String.ofList (Text.trim (hex text).toList) = hex text := by
  have hdigits : ∀ c ∈ (hex text).toList, CharClass.blank.mem c = false := by
    intro c hc
    simp only [hex, hexWord, String.toList_ofList, List.mem_flatMap, List.mem_cons,
      List.not_mem_nil, or_false] at hc
    rcases hc with ⟨w, _, b, _, hc⟩
    have hb := b.toNat_lt
    rcases hc with rfl | rfl
    · exact not_blank_digitChar _ (by omega)
    · exact not_blank_digitChar _ (by omega)
  rw [Text.trim_of_not_blank hdigits, String.ofList_toList]

end Sha256

namespace SlotFiles

variable {d : Directory} {key text digest : String} {old : Option String}

/-- A digest accepts the text that it is made of. -/
theorem verdict_of_hex (h : readText? d (digestName key) = .ok (some (Sha256.hex text))) :
    verdict d key text = .ok (some text) := by
  unfold verdict
  rw [h]
  dsimp only
  rw [if_pos (Sha256.trim_hex text)]

/-- A digest that accepts a text is that of the text. -/
theorem digest_of_verdict (hdigest : readText? d (digestName key) = .ok (some digest))
    (h : verdict d key text = .ok (some text)) :
    String.ofList (Text.trim digest.toList) = Sha256.hex text := by
  unfold verdict at h
  rw [hdigest] at h
  dsimp only at h
  by_contra hne
  rw [if_neg hne] at h
  cases h

/-- Without a digest every text is accepted. -/
theorem verdict_of_none (hdigest : readText? d (digestName key) = .ok none) :
    verdict d key text = .ok (some text) := by
  unfold verdict
  rw [hdigest]

/-- The digest of the text that is there refuses a text of another digest. -/
theorem verdict_of_other {found : String} (hkey : isKey key = true)
    (hget : get d key = .ok (some found))
    (hdigest : readText? d (digestName key) = .ok (some digest))
    (hne : Sha256.hex found ≠ Sha256.hex text) :
    verdict d key text = .error (.corrupt key (Sha256.hex found) (Sha256.hex text)) := by
  have htrim : String.ofList (Text.trim digest.toList) = Sha256.hex found := by
    rw [get_eq hkey] at hget
    split at hget
    · cases hget
    · cases hget
    · next there _ =>
      have hfound := Option.some.inj (eq_of_verdict hget)
      subst hfound
      exact digest_of_verdict hdigest hget
  unfold verdict
  rw [hdigest]
  dsimp only
  rw [htrim, if_neg hne]

/-- A slot that can be read can be written, as far as its text is concerned. -/
theorem admits_of_get (hkey : isKey key = true) (hget : get d key = .ok old) :
    d.admits (dataName key) = true := by
  by_contra ha
  rw [get_eq hkey, readText?_of_not_admits ha] at hget
  cases hget

/-- What is read after a number of steps: first the old text, then what the old
    digest makes of the new text, and then the new text. If the scratch file cannot
    be written it remains with the first, and if the digest cannot, with the
    second. -/
theorem get_interrupted (hkey : isKey key = true) (hget : get d key = .ok old) (text : String)
    (n : Nat) : get (interrupted d key text n) key =
      if 3 ≤ n ∧ d.admits (scratchName key) = true then
        if 6 ≤ n ∧ d.admits (digestName key) = true then .ok (some text) else verdict d key text
      else .ok old := by
  have hname := admits_of_get hkey hget
  rcases get?_interrupted d key text n with ⟨hdata, hdigest⟩
  by_cases hn : 3 ≤ n ∧ d.admits (scratchName key) = true
  · rw [if_pos hn]
    rw [if_pos ⟨hn.1, hn.2, hname⟩] at hdata
    rw [get_eq hkey, readText?_of_toUTF8 (Directory.admits_eq_true_iff.1 hname).1 hdata]
    dsimp only
    by_cases h6 : 6 ≤ n ∧ d.admits (digestName key) = true
    · rw [if_pos h6]
      rw [if_pos ⟨h6.1, hn.2, hname, h6.2⟩] at hdigest
      exact verdict_of_hex (readText?_of_toUTF8 (Directory.admits_eq_true_iff.1 h6.2).1 hdigest)
    · rw [if_neg h6]
      rw [if_neg fun h => h6 ⟨h.1, h.2.2.2⟩] at hdigest
      exact verdict_congr hdigest
  · -- Nothing but the scratch file has been touched.
    rw [if_neg hn]
    rw [if_neg fun h => hn ⟨h.1, h.2.1⟩] at hdata
    rw [if_neg fun h => hn ⟨by omega, h.2.1⟩] at hdigest
    rw [get_congr hdata hdigest, hget]

/-- What a write leaves when it is interrupted, and that this is the old or the new
    text at all points exactly if the digest that is there accepts the new text, or
    nothing can be written at all. Where there is no digest the new text is accepted, and
    where there is one of an old text with another digest, it is not. -/
theorem set_interrupted (hkey : isKey key = true) (hget : get d key = .ok old) (text : String) :
    (∀ n, get (interrupted d key text n) key =
      if 3 ≤ n ∧ d.admits (scratchName key) = true then
        if 6 ≤ n ∧ d.admits (digestName key) = true then .ok (some text) else verdict d key text
      else .ok old) ∧
    ((∀ n, get (interrupted d key text n) key = .ok old ∨
        get (interrupted d key text n) key = .ok (some text)) ↔
      (d.admits (scratchName key) = true → verdict d key text = .ok (some text))) ∧
    (readText? d (digestName key) = .ok none → verdict d key text = .ok (some text)) ∧
    ∀ found digest, old = some found → readText? d (digestName key) = .ok (some digest) →
      Sha256.hex found ≠ Sha256.hex text →
        verdict d key text = .error (.corrupt key (Sha256.hex found) (Sha256.hex text)) := by
  refine ⟨get_interrupted hkey hget text, ⟨?_, ?_⟩, verdict_of_none, ?_⟩
  · -- The point right behind the first replacement shows what the digest says.
    intro h hscratch
    have hthird := h 3
    rw [get_interrupted hkey hget, if_pos ⟨by omega, hscratch⟩, if_neg (by omega)] at hthird
    rcases hthird with hthird | hthird
    · rw [hthird, eq_of_verdict hthird]
    · exact hthird
  · intro h n
    rw [get_interrupted hkey hget]
    by_cases hn : 3 ≤ n ∧ d.admits (scratchName key) = true
    · rw [if_pos hn, h hn.2, ite_self]
      exact Or.inr rfl
    · rw [if_neg hn]
      exact Or.inl rfl
  · rintro found digest rfl hdigest hne
    exact verdict_of_other hkey hget hdigest hne

/-- Overwriting a text in a fresh directory: after half of the steps it is lost, and
    the new one cannot be had either. -/
theorem set_interrupted_slot :
    isKey "slot" = true ∧ get (set .empty "slot" "a").1 "slot" = .ok (some "a") ∧
      get (interrupted (set .empty "slot" "a").1 "slot" "b" 3) "slot" =
        .error (.corrupt "slot" (Sha256.hex "a") (Sha256.hex "b")) := by
  have hkey : isKey "slot" = true := by decide
  have hempty : get .empty "slot" = .ok none := by decide
  have hget : get (set .empty "slot" "a").1 "slot" = .ok (some "a") := by
    rw [set_eq_interrupted hkey, get_interrupted hkey hempty]
    decide
  have hscratch : (set .empty "slot" "a").1.admits (scratchName "slot") = true := by decide +kernel
  have hverdict : verdict (set .empty "slot" "a").1 "slot" "b" =
      .error (.corrupt "slot" (Sha256.hex "a") (Sha256.hex "b")) := by decide +kernel
  refine ⟨hkey, hget, ?_⟩
  rw [(set_interrupted hkey hget "b").1 3, if_pos ⟨by decide, hscratch⟩, if_neg (by decide),
    hverdict]

/-- A key whose data has a name that the file system takes while it refuses that of
    the digest: the text is there and cannot be read. -/
theorem get_interrupted_long (hkey : isKey key = true)
    (hsize : (dataName key).utf8ByteSize ≤ Directory.nameLimit)
    (hlong : ¬ (digestName key).utf8ByteSize ≤ Directory.nameLimit) (text : String) :
    get .empty key = .ok none ∧ get (interrupted .empty key text 3) key = .error .storage := by
  have hget : get .empty key = .ok none := get_of_notFound hkey (Directory.read_of_none hsize rfl)
  have hscratch : Directory.admits .empty (scratchName key) = true := by
    rw [Directory.admits_eq_true_iff]
    refine ⟨?_, by simp [Dictionary.get?, Dictionary.empty, Dictionary.lookup]⟩
    -- The ending of the scratch file is shorter than that of the data.
    have hdata : (dataName key).utf8ByteSize = key.utf8ByteSize + 5 := String.utf8ByteSize_append
    have hname : (scratchName key).utf8ByteSize = key.utf8ByteSize + 4 := String.utf8ByteSize_append
    omega
  have hverdict : verdict .empty key text = .error .storage := by
    unfold verdict
    rw [readText?_of_not_admits fun h => hlong (Directory.admits_eq_true_iff.1 h).1]
  refine ⟨hget, ?_⟩
  rw [get_interrupted hkey hget, if_pos ⟨by decide, hscratch⟩, if_neg (by omega), hverdict]

/-- Writing to a slot is not atomic. -/
theorem set_not_atomic :
    ¬ ∀ (d : Directory) (key text : String) (old : Option String) (n : Nat), isKey key = true →
      get d key = .ok old → get (interrupted d key text n) key = .ok old ∨
        get (interrupted d key text n) key = .ok (some text) := by
  intro h
  have hkey : isKey (String.ofList (List.replicate 249 'k')) = true := by
    rw [isKey_iff, String.toList_ofList]
    refine ⟨by decide +kernel, by decide, ?_⟩
    intro c hc
    rw [List.eq_of_mem_replicate hc]
    decide
  have hlong := get_interrupted_long hkey (by decide +kernel) (by decide +kernel) "x"
  rcases h .empty _ "x" none 3 hkey hlong.1 with hget | hget
  · rw [hlong.2] at hget
    cases hget
  · rw [hlong.2] at hget
    cases hget

end SlotFiles

end Playfield
