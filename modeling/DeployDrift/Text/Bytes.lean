/-!
# Texts as bytes

The bytes of a text in UTF-8, and the letters that any bytes are read as.  Bytes that form no
character are kept one by one, so that a reader can still tell where they stand.
-/
namespace DeployDrift.Text

def bytes (cs : List Char) : List UInt8 := cs.flatMap String.utf8EncodeChar

@[simp] theorem bytes_nil : bytes [] = [] := rfl

@[simp] theorem bytes_cons (c : Char) (cs : List Char) :
    bytes (c :: cs) = String.utf8EncodeChar c ++ bytes cs := List.flatMap_cons

theorem bytes_toList (s : String) : bytes s.toList = s.toUTF8.data.toList := by
  rw [String.toUTF8_eq_toByteArray, ← String.utf8Encode_toList, List.utf8Encode,
    List.toList_data_toByteArray, bytes]

theorem bytes_toList_inj {s t : String} : bytes s.toList = bytes t.toList ↔ s = t := by
  rw [bytes_toList, bytes_toList]
  constructor
  · intro h
    exact String.toByteArray_inj.mp (ByteArray.ext (Array.toList_inj.mp h))
  · rintro rfl
    rfl

/-- The text in which every byte is a character of its own. -/
def ofLatin (bs : List UInt8) : String := String.ofList (bs.map Char.ofUInt8)

/-- Bytes below 128 are the characters that they are numbers of. -/
theorem bytes_ofLatin {bs : List UInt8} (h : ∀ b ∈ bs, b < 0x80) :
    bytes (ofLatin bs).toList = bs := by
  rw [ofLatin, String.toList_ofList]
  induction bs with
  | nil => rfl
  | cons b bs ih =>
    obtain ⟨hb, hbs⟩ := List.forall_mem_cons.mp h
    have hvalue : (Char.ofUInt8 b).val = b.toUInt32 := rfl
    have hsize : (Char.ofUInt8 b).utf8Size = 1 := by
      rw [Char.utf8Size_eq_one_iff, hvalue, UInt32.le_iff_toNat_le, UInt8.toNat_toUInt32]
      exact Nat.le_of_lt_succ (UInt8.lt_iff_toNat_lt.mp hb)
    rw [List.map_cons, bytes_cons, String.utf8EncodeChar_eq_singleton hsize, hvalue,
      UInt8.toUInt8_toUInt32, ih hbs, List.singleton_append]

/-- A character, or a byte that is part of none. -/
inductive Letter where
  | char (c : Char)
  | stray (b : UInt8)
  deriving DecidableEq, Repr

namespace Letter

def char? : Letter → Option Char
  | .char c => some c
  | .stray _ => none

def bytes : Letter → List UInt8
  | .char c => String.utf8EncodeChar c
  | .stray b => [b]

def utf8Size : Letter → Nat
  | .char c => c.utf8Size
  | .stray _ => 1

theorem utf8Size_pos (x : Letter) : 0 < x.utf8Size := by
  cases x with
  | char c => exact c.utf8Size_pos
  | stray b => exact Nat.one_pos

theorem mapM_char?_map_char (cs : List Char) : (cs.map char).mapM char? = some cs := by
  induction cs with
  | nil => rfl
  | cons c cs ih => simp [List.mapM_cons, char?, ih]

def isDigit (x : Letter) : Bool := x.char?.any Char.isDigit

/-- The letters of a list of bytes whose first `taken` bytes belong to the letter before. -/
def readFrom : (taken : Nat) → List UInt8 → List Letter
  | _, [] => []
  | taken + 1, _ :: rest => readFrom taken rest
  | 0, b :: rest =>
    match (b :: rest.take 3).toByteArray.utf8DecodeChar? 0 with
    | some c => .char c :: readFrom (c.utf8Size - 1) rest
    | none => .stray b :: readFrom 0 rest

def ofBytes (bs : List UInt8) : List Letter := readFrom 0 bs

theorem readFrom_length_append (skipped rest : List UInt8) :
    readFrom skipped.length (skipped ++ rest) = readFrom 0 rest := by
  induction skipped with
  | nil => rfl
  | cons b skipped ih => exact ih

theorem readFrom_utf8EncodeChar_append (c : Char) (rest : List UInt8) :
    readFrom 0 (String.utf8EncodeChar c ++ rest) = .char c :: readFrom 0 rest := by
  have hlength : (String.utf8EncodeChar c).length = c.utf8Size := String.length_utf8EncodeChar c
  have hsize : 0 < c.utf8Size ∧ c.utf8Size ≤ 4 := ⟨c.utf8Size_pos, c.utf8Size_le_four⟩
  cases hbytes : String.utf8EncodeChar c with
  | nil =>
    rw [hbytes] at hlength
    simp at hlength
    omega
  | cons b tail =>
    have htail : tail.length = c.utf8Size - 1 := by
      rw [hbytes, List.length_cons] at hlength
      omega
    have hwindow : b :: (tail ++ rest).take 3 =
        String.utf8EncodeChar c ++ rest.take (3 - tail.length) := by
      rw [List.take_append, List.take_of_length_le (by omega), hbytes, List.cons_append]
    have hdecode : (b :: (tail ++ rest).take 3).toByteArray.utf8DecodeChar? 0 = some c := by
      rw [hwindow, List.toByteArray_append]
      exact ByteArray.utf8DecodeChar?_utf8EncodeChar_append
    simp only [List.cons_append, readFrom, hdecode, ← htail, readFrom_length_append]

/-- The bytes of a text are read as its characters. -/
theorem ofBytes_bytes (cs : List Char) : ofBytes (Text.bytes cs) = cs.map .char := by
  induction cs with
  | nil => rfl
  | cons c cs ih =>
    rw [Text.bytes, List.flatMap_cons, ofBytes, readFrom_utf8EncodeChar_append, List.map_cons]
    exact congrArg _ ih

/-- The letters of some bytes have these bytes again. -/
theorem flatMap_bytes_readFrom (taken : Nat) (bs : List UInt8) :
    (readFrom taken bs).flatMap bytes = bs.drop taken := by
  induction bs generalizing taken with
  | nil => cases taken <;> rfl
  | cons b rest ih =>
    cases taken with
    | succ taken => exact ih taken
    | zero =>
      cases hdecode : (b :: rest.take 3).toByteArray.utf8DecodeChar? 0 with
      | none => simp [readFrom, hdecode, bytes, ih]
      | some c =>
        obtain ⟨behind, hbehind⟩ := ByteArray.exists_of_utf8DecodeChar?_eq_some hdecode
        have hwindow : b :: rest.take 3 = String.utf8EncodeChar c ++ behind.data.toList := by
          simpa using congrArg (·.data.toList) hbehind
        have hall : b :: rest = String.utf8EncodeChar c ++ (behind.data.toList ++ rest.drop 3) := by
          rw [← List.append_assoc, ← hwindow, List.cons_append, List.take_append_drop]
        have hsize : c.utf8Size - 1 + 1 = (String.utf8EncodeChar c).length := by
          have hpos := c.utf8Size_pos
          rw [String.length_utf8EncodeChar]
          omega
        have hrest : rest.drop (c.utf8Size - 1) = behind.data.toList ++ rest.drop 3 := by
          rw [← List.drop_succ_cons (a := b), hall, hsize, List.drop_left]
        simp only [readFrom, hdecode, List.flatMap_cons, bytes, ih, hrest, ← hall, List.drop_zero]

theorem flatMap_bytes_ofBytes (bs : List UInt8) : (ofBytes bs).flatMap bytes = bs :=
  flatMap_bytes_readFrom 0 bs

end Letter
end DeployDrift.Text
