import Mathlib
import Playfield.Asset.DataUrl
import Playfield.Proofs.Slot.Names
import Playfield.Proofs.Text.Base64

/-!
# Payloads in Base64

Which sources in base64 are decoded, and that the size is the number of bytes in them.

The size of a payload is computed from its length and its padding, and no byte is looked at. This
is right because what is checked before is what makes a text readable: the digits are those of
the alphabet, the padding stands behind them and is short, and the groups are complete
(`DataUrl.base64Size?_eq_some_iff`). A reader of bytes finds as many of them
(`DataUrl.base64Size?_eq`).

The header is cut out of the source by what stands in front of it, by the first comma, and by the
mark at its end. So the type is everything up to the last mark, with all parameters and also with
other marks, only without commas.

## Main definitions

* `DataUrl.written`: The source of a type and a payload in base64.
* `DataUrl.IsMarked`: A source that says its payload is in base64.

## Theorems

* `DataUrl.base64Size?_eq_some_iff`: Which payloads have a size.
* `DataUrl.base64Size?_eq`: The size is the number of bytes that are read.
* `DataUrl.splitComma?_append`: The header has no comma.
* `DataUrl.isMarked_iff`: What follows the first comma is the payload.
* `DataUrl.decode_written`: When a source in base64 is decoded, and what to.
* `DataUrl.decode_isMarked_iff`: Which sources in base64 are decoded.
* `DataUrl.exists_bytes_of_decode`: The size is that of what is read.
* `DataUrl.decode_encode`: Written bytes are decoded, whatever they are.
* `DataUrl.base64Size?_add`: No size would be below zero.
* `DataUrl.decode_base64`: Decoding is exact on base64.
-/

namespace Playfield

theorem Text.after?_isNone_iff (front cs : List Char) :
    (Text.after? front cs).isNone = true ↔ ¬ front <+: cs := by
  rw [Option.isNone_iff_eq_none, ← not_iff_not, not_not, ← ne_eq, Option.ne_none_iff_exists']
  constructor
  · rintro ⟨rest, hrest⟩
    exact ⟨rest, (Fragment.eq_append_of_after? hrest).symm⟩
  · rintro ⟨rest, rfl⟩
    exact ⟨rest, Text.after?_append front rest⟩

namespace DataUrl

theorem toNat_lt_of_isBase64Digit {c : Char} (h : isBase64Digit c = true) : c.toNat < 128 := by
  simp only [isBase64Digit, Bool.or_eq_true, Bool.and_eq_true, decide_eq_true_eq,
    beq_iff_eq] at h
  have hlast (d : Char) (hcd : c ≤ d) (hd : d.toNat < 128) : c.toNat < 128 :=
    lt_of_le_of_lt (UInt32.le_iff_toNat_le.mp (Char.le_def.mp hcd)) hd
  rcases h with (((⟨-, h⟩ | ⟨-, h⟩) | ⟨-, h⟩) | rfl) | rfl
  · exact hlast 'z' h (by decide)
  · exact hlast 'Z' h (by decide)
  · exact hlast '9' h (by decide)
  · decide
  · decide

theorem isBase64Digit_iff (c : Char) : isBase64Digit c = true ↔ c ∈ Base64.alphabet := by
  have htable : ∀ n < 128,
      isBase64Digit (Char.ofNat n) = decide (Char.ofNat n ∈ Base64.alphabet) := by
    decide +kernel
  have hbound : Base64.alphabet.all (·.toNat < 128) = true := by decide +kernel
  rw [List.all_eq_true] at hbound
  have hiff (hc : c.toNat < 128) : isBase64Digit c = true ↔ c ∈ Base64.alphabet := by
    have h := htable c.toNat hc
    rw [Char.ofNat_toNat] at h
    rw [h, decide_eq_true_eq]
  constructor
  · intro h
    exact (hiff (toNat_lt_of_isBase64Digit h)).mp h
  · intro h
    exact (hiff (by simpa using hbound c h)).mpr h

/-- The digits and the padding are the whole payload. -/
theorem splitPadding_append (payload : List Char) :
    (splitPadding payload).1 ++ List.replicate (splitPadding payload).2 '=' = payload := by
  have hpadding : payload.reverse.takeWhile (· == '=') =
      List.replicate (payload.reverse.takeWhile (· == '=')).length '=' :=
    List.eq_replicate_of_mem fun c hc => by simpa using List.mem_takeWhile_imp hc
  have hsplit := congrArg List.reverse
    (List.takeWhile_append_dropWhile (p := (· == '=')) (l := payload.reverse))
  rw [List.reverse_append, List.reverse_reverse, hpadding, List.reverse_replicate] at hsplit
  have hlength := congrArg List.length hsplit
  rw [List.length_append, List.length_replicate] at hlength
  have hcount : (splitPadding payload).2 = (payload.reverse.takeWhile (· == '=')).length := by
    dsimp only [splitPadding]
    omega
  rw [hcount]
  exact hsplit

theorem splitPadding_length (payload : List Char) :
    (splitPadding payload).1.length + (splitPadding payload).2 = payload.length := by
  have hlength := congrArg List.length (splitPadding_append payload)
  rwa [List.length_append, List.length_replicate] at hlength

/-- Padding that stands behind digits is found. -/
theorem splitPadding_replicate {digits : List Char} (padding : Nat) (h : '=' ∉ digits) :
    splitPadding (digits ++ List.replicate padding '=') = (digits, padding) := by
  have hdigits : digits.reverse.dropWhile (· == '=') = digits.reverse := by
    rw [List.dropWhile_eq_self_iff]
    intro hpos heq
    exact h (List.mem_reverse.mp (eq_of_beq heq ▸ List.getElem_mem hpos))
  simp [splitPadding, hdigits]

theorem splitPadding_of_isPayload {digits payload : List Char} {padding : Nat}
    (h : Base64.IsPayload digits padding payload) : splitPadding payload = (digits, padding) := by
  rw [h.eq_append]
  exact splitPadding_replicate padding fun hmem => Base64.not_mem_padding (h.alphabetic '=' hmem)

theorem base64Size?_eq_some_iff {payload : List Char} {n : Nat} :
    base64Size? payload = some n ↔
      ∃ digits padding, Base64.IsPayload digits padding payload ∧
        n + padding = payload.length / 4 * 3 := by
  constructor
  · intro h
    simp only [base64Size?] at h
    split at h
    · next hguard =>
        simp only [Bool.and_eq_true, List.all_eq_true, decide_eq_true_eq, beq_iff_eq] at hguard
        obtain ⟨⟨halphabetic, hpadding⟩, hmod⟩ := hguard
        have hpayload : Base64.IsPayload (splitPadding payload).1 (splitPadding payload).2
            payload :=
          ⟨(splitPadding_append payload).symm,
            fun c hc => (isBase64Digit_iff c).mp (halphabetic c hc), hpadding, hmod⟩
        -- bytes can be read, so they are not less than none
        obtain ⟨bytes, -, hlength⟩ := Base64.exists_decode? hpayload
        rw [Option.some.injEq] at h
        exact ⟨_, _, hpayload, by omega⟩
    · cases h
  · rintro ⟨digits, padding, h, hn⟩
    have hdigits : digits.all isBase64Digit = true :=
      List.all_eq_true.mpr fun c hc => (isBase64Digit_iff c).mpr (h.alphabetic c hc)
    simp only [base64Size?, splitPadding_of_isPayload h, hdigits, h.padding_le, h.length_mod,
      decide_true, beq_self_eq_true, Bool.and_true, if_true, Option.some.injEq]
    omega

theorem base64Size?_add {payload : List Char} {n : Nat} (h : base64Size? payload = some n) :
    n + (splitPadding payload).2 = payload.length / 4 * 3 := by
  obtain ⟨digits, padding, hpayload, hlength⟩ := base64Size?_eq_some_iff.mp h
  rw [splitPadding_of_isPayload hpayload]
  exact hlength

/-- The size is the number of bytes that are read. -/
theorem base64Size?_eq (payload : List Char) :
    base64Size? payload = (Base64.decode? payload).map List.length := by
  ext n
  rw [base64Size?_eq_some_iff, Option.map_eq_some_iff]
  constructor
  · rintro ⟨digits, padding, h, hn⟩
    obtain ⟨bytes, hbytes, hlength⟩ := Base64.exists_decode? h
    exact ⟨bytes, hbytes, by omega⟩
  · rintro ⟨bytes, hbytes, rfl⟩
    obtain ⟨digits, padding, h⟩ := Base64.exists_isPayload hbytes
    obtain ⟨bytes', hbytes', hlength⟩ := Base64.exists_decode? h
    obtain rfl : bytes' = bytes := Option.some.inj (hbytes'.symm.trans hbytes)
    exact ⟨digits, padding, h, hlength⟩

/-- What stands in front of the first comma has none. -/
theorem splitComma?_append {header : List Char} (payload : List Char) (h : ',' ∉ header) :
    splitComma? (header ++ ',' :: payload) = some (header, payload) := by
  induction header with
  | nil => rfl
  | cons c cs ih =>
      rw [List.mem_cons, not_or] at h
      rw [List.cons_append, splitComma?, if_neg (Ne.symm h.1), ih h.2, Option.map_some]

/-- The source of a type and a payload in base64. -/
def written (mime payload : List Char) : List Char :=
  "data:".toList ++ mime ++ ";base64,".toList ++ payload

/-- A source says that its payload is in base64: the mark is what the header ends with, and the
    header ends at the first comma. -/
def IsMarked (source : String) : Prop :=
  ∃ header payload, source.toList = "data:".toList ++ (header ++ ',' :: payload) ∧
    ',' ∉ header ∧ ";base64".toList <:+ header

theorem written_eq (mime payload : List Char) :
    written mime payload = "data:".toList ++ (mime ++ ";base64".toList ++ ',' :: payload) := by
  simp [written]

theorem isMarked_iff {source : String} :
    IsMarked source ↔ ∃ mime payload, source.toList = written mime payload ∧ ',' ∉ mime := by
  constructor
  · rintro ⟨header, payload, hsource, hheader, mime, rfl⟩
    refine ⟨mime, payload, by rw [hsource, written_eq], fun hmem => hheader (by simp [hmem])⟩
  · rintro ⟨mime, payload, hsource, hmime⟩
    refine ⟨mime ++ ";base64".toList, payload, by rw [hsource, written_eq], ?_, mime, rfl⟩
    simpa using hmime

theorem decode_written (id : AssetId) (kind : AssetKind) {source : String}
    {mime payload : List Char} (hsource : source.toList = written mime payload)
    (hmime : ',' ∉ mime) {asset : Asset} :
    decode id kind source = .ok asset ↔ kind.family.toList <+: mime ∧
      ∃ n ≠ 0, base64Size? payload = some n ∧ asset = ⟨id, kind, String.ofList mime, n⟩ := by
  have hsplit : splitComma? (mime ++ ";base64".toList ++ ',' :: payload) =
      some (mime ++ ";base64".toList, payload) :=
    splitComma?_append payload (by simpa using hmime)
  simp only [decode, hsource, written_eq, Text.after?_append, Option.bind_some, hsplit,
    Text.before?_append, Option.getD_some, Option.isSome_some, if_true, Text.after?_isNone_iff]
  by_cases hfamily : kind.family.toList <+: mime
  · rw [if_neg (not_not.mpr hfamily)]
    rcases base64Size? payload with _ | _ | n
    · simp
    · simp
    · simp [hfamily, eq_comm]
  · simp [hfamily]

section Exact

variable (id : AssetId) (kind : AssetKind)

theorem decode_isMarked_iff (source : String) :
    (∃ asset, decode id kind source = .ok asset) ∧ IsMarked source ↔
      ∃ mime payload digits padding, source.toList = written mime payload ∧ ',' ∉ mime ∧
        kind.family.toList <+: mime ∧ payload ≠ [] ∧
        Base64.IsPayload digits padding payload := by
  constructor
  · rintro ⟨⟨asset, hasset⟩, hmarked⟩
    obtain ⟨mime, payload, hsource, hmime⟩ := isMarked_iff.mp hmarked
    obtain ⟨hfamily, n, hn, hsize, -⟩ := (decode_written id kind hsource hmime).mp hasset
    obtain ⟨digits, padding, hpayload, hlength⟩ := base64Size?_eq_some_iff.mp hsize
    refine ⟨mime, payload, digits, padding, hsource, hmime, hfamily, ?_, hpayload⟩
    rintro rfl
    simp only [List.length_nil] at hlength
    omega
  · rintro ⟨mime, payload, digits, padding, hsource, hmime, hfamily, hne, hpayload⟩
    refine ⟨?_, isMarked_iff.mpr ⟨mime, payload, hsource, hmime⟩⟩
    obtain ⟨bytes, -, hlength⟩ := Base64.exists_decode? hpayload
    -- of the three bytes of the first group padding takes two away at the most
    have hpos := List.length_pos_iff.mpr hne
    have hmod := hpayload.length_mod
    have hpadding := hpayload.padding_le
    have hsize := base64Size?_eq_some_iff.mpr ⟨digits, padding, hpayload, hlength⟩
    exact ⟨_, (decode_written id kind hsource hmime).mpr
      ⟨hfamily, bytes.length, by omega, hsize, rfl⟩⟩

variable {source : String} {mime : List Char}

theorem exists_bytes_of_decode {payload : List Char} {asset : Asset}
    (hsource : source.toList = written mime payload) (hmime : ',' ∉ mime)
    (h : decode id kind source = .ok asset) :
    ∃ bytes, Base64.decode? payload = some bytes ∧
      asset = ⟨id, kind, String.ofList mime, bytes.length⟩ := by
  obtain ⟨-, n, -, hsize, rfl⟩ := (decode_written id kind hsource hmime).mp h
  rw [base64Size?_eq, Option.map_eq_some_iff] at hsize
  obtain ⟨bytes, hbytes, rfl⟩ := hsize
  exact ⟨bytes, hbytes, rfl⟩

theorem decode_encode {bytes : List UInt8}
    (hsource : source.toList = written mime (Base64.encode bytes)) (hmime : ',' ∉ mime)
    (hfamily : kind.family.toList <+: mime) (hbytes : bytes ≠ []) :
    decode id kind source = .ok ⟨id, kind, String.ofList mime, bytes.length⟩ := by
  refine (decode_written id kind hsource hmime).mpr ⟨hfamily, bytes.length, ?_, ?_, rfl⟩
  · exact List.length_eq_zero_iff.not.mpr hbytes
  · rw [base64Size?_eq, Base64.decode?_encode, Option.map_some]

end Exact

/-- Decoding is exact on base64. What is decoded is a type without commas that begins as the
    kind wants it, and a payload of digits and padding that is not empty. Its size is the number
    of bytes that are read from the payload; and all bytes, unless there are none, can be written
    so. No difference is taken whose result would be below zero. -/
theorem decode_base64 (id : AssetId) (kind : AssetKind) :
    (∀ source, (∃ asset, decode id kind source = .ok asset) ∧ IsMarked source ↔
      ∃ mime payload digits padding, source.toList = written mime payload ∧ ',' ∉ mime ∧
        kind.family.toList <+: mime ∧ payload ≠ [] ∧
        Base64.IsPayload digits padding payload) ∧
    (∀ source mime payload asset, source.toList = written mime payload → ',' ∉ mime →
      decode id kind source = .ok asset →
      ∃ bytes, Base64.decode? payload = some bytes ∧
        asset = ⟨id, kind, String.ofList mime, bytes.length⟩) ∧
    (∀ source mime bytes, source.toList = written mime (Base64.encode bytes) → ',' ∉ mime →
      kind.family.toList <+: mime → bytes ≠ [] →
      decode id kind source = .ok ⟨id, kind, String.ofList mime, bytes.length⟩) ∧
    ∀ payload, (splitPadding payload).1.length + (splitPadding payload).2 = payload.length ∧
      ∀ n, base64Size? payload = some n →
        n + (splitPadding payload).2 = payload.length / 4 * 3 :=
  ⟨decode_isMarked_iff id kind,
    fun _ _ _ _ hsource hmime h => exists_bytes_of_decode id kind hsource hmime h,
    fun _ _ _ hsource hmime hfamily hbytes =>
      decode_encode id kind hsource hmime hfamily hbytes,
    fun payload => ⟨splitPadding_length payload, fun _ h => base64Size?_add h⟩⟩

/-- Four bytes are eight characters, of which two are padding. The type may have parameters. -/
theorem decode_base64_parameter :
    decode 7 .image "data:image/png;a=b;base64,AQIDBA==" =
        .ok ⟨7, .image, "image/png;a=b", 4⟩ ∧
      (∃ bytes, Base64.decode? "AQIDBA==".toList = some bytes ∧
        (⟨7, .image, "image/png;a=b", 4⟩ : Asset) =
          ⟨7, .image, "image/png;a=b", bytes.length⟩) ∧
      4 + (splitPadding "AQIDBA==".toList).2 = "AQIDBA==".toList.length / 4 * 3 := by
  have hmime : ',' ∉ "image/png;a=b".toList := by decide +kernel
  have hdecode : decode 7 .image "data:image/png;a=b;base64,AQIDBA==" =
      .ok ⟨7, .image, "image/png;a=b", 4⟩ :=
    (decode_base64 7 .image).2.2.1 _ "image/png;a=b".toList [1, 2, 3, 4] (by decide +kernel)
      hmime (by decide +kernel) (by decide)
  exact ⟨hdecode,
    (decode_base64 7 .image).2.1 _ "image/png;a=b".toList _ _ (by decide +kernel) hmime hdecode,
    ((decode_base64 7 .image).2.2.2 _).2 _ (by decide +kernel)⟩

end DataUrl

end Playfield
