import LotSearch.Page
import LotSearch.Proofs.Text.Base64Url
import LotSearch.Proofs.Text.Delimited
import LotSearch.Proofs.Text.Number

/-!
# Reading cursors back

A cursor brings back the number of entries that it was made from, up to the greatest number of 64
bits.  The payload of a cursor is plain ASCII, so its octets are its characters, and its number is
written in the form in which JSON numbers are read.
-/

namespace LotSearch

/-! ## Plain octets -/

theorem Utf8.encode_of_ascii {t : Text} (h : ∀ c ∈ t, c.toNat < 0x80) :
    Utf8.encode t = t.map Char.toNat := by
  induction t with
  | nil => rfl
  | cons c t ih =>
      obtain ⟨hc, ht⟩ := List.forall_mem_cons.1 h
      rw [Utf8.encode_cons, ih ht, Utf8.encodeChar, if_pos hc]
      rfl

theorem Page.octetText_map_toNat (t : Text) : Page.octetText (t.map Char.toNat) = t := by
  rw [Page.octetText, List.map_map]
  exact (List.map_congr_left fun c _ => Char.ofNat_toNat c).trans (List.map_id t)

/-! ## Numbers as JSON -/

namespace Text

theorem head?_ofNat {n : Nat} (h : 0 < n) : (ofNat n).head? ≠ some '0' := by
  induction n using Nat.strongRecOn with
  | ind n ih =>
      by_cases hsmall : n < 10
      · rw [ofNat, Nat.toDigits_of_lt_base hsmall]
        interval_cases n <;> simp [Nat.digitChar]
      · have hdigits : ofNat n = ofNat (n / 10) ++ [(n % 10).digitChar] :=
          Nat.toDigits_of_base_le (by decide) (by omega)
        rw [hdigits, List.head?_append_of_ne_nil _ (ofNat_ne_nil _)]
        exact ih (n / 10) (by omega) (by omega)

theorem toNat_lt_of_mem_ofNat {n : Nat} {c : Char} (h : c ∈ ofNat n) : c.toNat < 0x80 := by
  obtain ⟨range, hmem, _, hlast⟩ :=
    inRanges_eq_true_iff.1 (inRanges_of_isAsciiDigit (isAsciiDigit_of_mem_ofNat h))
  obtain rfl := List.mem_singleton.1 hmem
  omega

end Text

namespace Json

theorem skipSpace_eq_self {t : Text} (h : ∀ c, t.head? = some c → isSpace c = false) :
    skipSpace t = t := by
  cases t with
  | nil => rfl
  | cons c t => simp [skipSpace, h c rfl]

theorem isSpace_of_isAsciiDigit {c : Char} (h : isAsciiDigit c = true) : isSpace c = false := by
  have hblank : ∀ d : Char, isAsciiDigit d = false → c ≠ d := fun d hd => ne_of_class h hd
  simp [isSpace, hblank ' ' (by decide), hblank '\n' (by decide), hblank '\t' (by decide),
    hblank '\r' (by decide)]

/-- A written number is read up to the character that follows it, unless that could go on with a
number. -/
theorem readNumber_ofNat {n : Nat} {rest : Text} (hle : (n : Int) ≤ maxUInt64)
    (hrest : ∀ c, rest.head? = some c → isAsciiDigit c = false ∧ c ≠ '.' ∧ c ≠ 'e' ∧ c ≠ 'E') :
    readNumber (Text.ofNat n ++ rest) = .ok (.whole n, rest) := by
  have hdigits : ∀ c ∈ Text.ofNat n, isAsciiDigit c = true :=
    fun _ hc => Text.isAsciiDigit_of_mem_ofNat hc
  have hstop : rest.head?.any isAsciiDigit = false := by
    cases rest with
    | nil => rfl
    | cons c rest => simp [(hrest c rfl).1]
  have htake := takeWhile_append_of_class hdigits hstop
  have hdrop := dropWhile_append_of_class hdigits hstop
  have hzero : ((Text.ofNat n).length ≠ 1 && (Text.ofNat n).head? = some '0') = false := by
    rcases Nat.eq_zero_or_pos n with rfl | hpos
    · rfl
    · simp [Text.head?_ofNat hpos]
  have hempty : (Text.ofNat n).isEmpty = false := by simpa using Text.ofNat_ne_nil n
  have hfraction : readFraction rest = .ok ([], rest) := by
    cases rest with
    | nil => rfl
    | cons c rest => simp [readFraction, (hrest c rfl).2.1]
  have hpower : readPower rest = .ok (none, rest) := by
    cases rest with
    | nil => rfl
    | cons c rest => simp [readPower, (hrest c rfl).2.2]
  have hsign : (Text.ofNat n ++ rest).head? ≠ some '-' := by
    rw [List.head?_append_of_ne_nil _ (Text.ofNat_ne_nil n)]
    intro hhead
    exact absurd (hdigits '-' (List.mem_of_mem_head? hhead)) (by decide)
  have hnumeral : readNumeral (Text.ofNat n ++ rest) =
      .ok (⟨false, Text.ofNat n, [], none⟩, rest) := by
    rw [readNumeral]
    · simp only [readUnsigned, htake, hdrop, hempty, hzero, Bool.or_self, Bool.false_eq_true,
        if_false, hfraction, hpower, bind, Except.bind, pure, Except.pure]
    · rintro t ht
      exact hsign (by simp [ht])
  have hvalue : Text.digitsValue (Text.ofNat n) = n := Nat.ofDigitChars_ten_toDigits
  simp [readNumber, hnumeral, Numeral.toNumber?, Numeral.isWhole, hvalue, hle, bind, Except.bind,
    pure, Except.pure]

end Json

/-! ## Cursors -/

namespace Page

def nameText : Text := ['"', 'o', 'f', 'f', 's', 'e', 't', '"']

theorem writeText_offset : Json.writeText "offset".toList = nameText := by decide

def payloadText (n : Nat) : Text :=
  '\x7b' :: (nameText ++ (':' :: (Text.ofNat n ++ ['\x7d'])))

theorem write_payload (n : Nat) :
    (Json.object [("offset".toList, .number (.whole n))]).write = payloadText n := by
  have hnumber : Json.writeNumber (.whole n) = Text.ofNat n := rfl
  simp only [Json.write, Json.writeFields, writeText_offset, hnumber, payloadText,
    List.cons_append, List.append_assoc]

theorem toNat_lt_of_mem_payloadText {n : Nat} {c : Char} (h : c ∈ payloadText n) :
    c.toNat < 0x80 := by
  have hname : ∀ c ∈ nameText, c.toNat < 0x80 := forall_mem_of_all (by decide)
  simp only [payloadText, List.mem_cons, List.mem_append, List.not_mem_nil, or_false] at h
  rcases h with rfl | hc | rfl | hc | rfl
  · decide
  · exact hname c hc
  · decide
  · exact Text.toNat_lt_of_mem_ofNat hc
  · decide

theorem readSlot_ofNat {n : Nat} (hle : (n : Int) ≤ maxInt64) (depth : Nat) :
    Json.readSlot depth .integer (Text.ofNat n ++ ['\x7d']) =
      .ok (.number (.whole n), ['\x7d']) := by
  have hhead : ∃ c, (Text.ofNat n ++ ['\x7d']).head? = some c ∧ isAsciiDigit c = true := by
    obtain ⟨c, digits, hdigits⟩ := List.exists_cons_of_ne_nil (Text.ofNat_ne_nil n)
    refine ⟨c, by simp [hdigits], ?_⟩
    apply Text.isAsciiDigit_of_mem_ofNat (n := n)
    simp [hdigits]
  obtain ⟨c, hc, hdigit⟩ := hhead
  have hspace : Json.skipSpace (Text.ofNat n ++ ['\x7d']) = Text.ofNat n ++ ['\x7d'] := by
    apply Json.skipSpace_eq_self
    intro d hd
    obtain rfl : c = d := by simpa [hc] using hd
    exact Json.isSpace_of_isAsciiDigit hdigit
  have hnumber : Json.readNumber (Text.ofNat n ++ ['\x7d']) = .ok (.whole n, ['\x7d']) := by
    apply Json.readNumber_ofNat
    · simp only [maxInt64, maxUInt64] at hle ⊢
      omega
    · intro d hd
      obtain rfl : '\x7d' = d := by simpa using hd
      decide
  have hlow : minInt64 ≤ (n : Int) := by
    simp only [minInt64]
    omega
  simp [Json.readSlot, hspace, hc, hdigit, hnumber, hlow, hle, bind, Except.bind, pure,
    Except.pure]

theorem readOctetName_offset (rest : Text) :
    readOctetName ('o' :: 'f' :: 'f' :: 's' :: 'e' :: 't' :: '"' :: rest) =
      .ok (['o', 'f', 'f', 's', 'e', 't'], rest) := by
  have hsplit : Json.splitQuoted ('o' :: 'f' :: 'f' :: 's' :: 'e' :: 't' :: '"' :: rest) =
      some (['o', 'f', 'f', 's', 'e', 't'], rest) := by
    simp [Json.splitQuoted]
  have hvalid : Utf8.isValid (['o', 'f', 'f', 's', 'e', 't'].map Char.toNat) = true := by decide
  have hname : Json.unescape? ['o', 'f', 'f', 's', 'e', 't'] =
      some ['o', 'f', 'f', 's', 'e', 't'] := by decide
  simp only [readOctetName, hsplit, hvalid, if_true, Json.readQuoted, hname]

theorem readSlotField_offset {n : Nat} (hle : (n : Int) ≤ maxInt64) (depth : Nat) :
    Json.readSlotField cursorSlots depth [none] ['o', 'f', 'f', 's', 'e', 't']
        (':' :: (Text.ofNat n ++ ['\x7d'])) =
      .ok ([some (.number (.whole n))], ['\x7d']) := by
  have hcolon : Json.readColon (':' :: (Text.ofNat n ++ ['\x7d'])) =
      .ok (Text.ofNat n ++ ['\x7d']) := by
    simp [Json.readColon, Json.skipSpace, Json.isSpace]
  simp [Json.readSlotField, cursorSlots, hcolon, readSlot_ofNat hle, bind, Except.bind, pure,
    Except.pure]

theorem readPayload_payloadText {n : Nat} (hle : (n : Int) ≤ maxInt64) :
    readPayload ((payloadText n).map Char.toNat) = some (n : Int) := by
  have hslots : (cursorSlots.map fun _ => (none : Option Json)) = [none] := rfl
  have hrecord : Json.readRecordWith readOctetName cursorSlots (payloadText n) =
      .ok ([some (.number (.whole n))], []) := by
    simp [Json.readRecordWith, payloadText, nameText, Json.skipSpace, Json.isSpace, Json.readFields,
      Json.readName, readOctetName_offset, hslots, readSlotField_offset hle, Json.readMoreFields,
      bind, Except.bind]
  simp [readPayload, octetText_map_toNat, hrecord, Json.skipSpace]

/-- A cursor stands for the number of entries it was made from. -/
theorem decodeCursor_encodeCursor {offset : Int} (hnonneg : 0 ≤ offset) (hle : offset ≤ maxInt64) :
    decodeCursor (encodeCursor offset) = .ok offset := by
  obtain ⟨n, rfl⟩ := Int.eq_ofNat_of_zero_le hnonneg
  have hoctets : ∀ b ∈ (payloadText n).map Char.toNat, b < 256 := by
    intro b hb
    obtain ⟨c, hc, rfl⟩ := List.mem_map.1 hb
    have hascii := toNat_lt_of_mem_payloadText hc
    omega
  have hencode : encodeCursor n = Base64Url.encode ((payloadText n).map Char.toNat) := by
    have hmax : max (n : Int) 0 = n := Int.max_eq_left hnonneg
    rw [encodeCursor, hmax, write_payload,
      Utf8.encode_of_ascii fun _ hc => toNat_lt_of_mem_payloadText hc]
  rw [decodeCursor, hencode, Base64Url.decode?_encode hoctets]
  simp only [readPayload_payloadText hle, Int.max_eq_left hnonneg]

end Page

end LotSearch
