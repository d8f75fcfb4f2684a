import DeployDrift.Json.Reader
import DeployDrift.Json.Writer

/-!
# Written texts read back

A text that is written between quotes is read as the same text, whatever it contains.  An escape is
read in one step, as any other character is.
-/
namespace DeployDrift.Json

open Text (Letter)

/-- The letters that a character is written with. -/
def writtenLetters (c : Char) : List Letter := (writeChar c).toList.map .char

section Escapes

theorem le_foldl_utf8Size (letters : List Letter) (n : Nat) :
    n ≤ letters.foldl (fun n x => n + x.utf8Size) n := by
  induction letters generalizing n with
  | nil => exact Nat.le_refl n
  | cons x letters ih => exact Nat.le_trans (Nat.le_add_right n _) (ih _)

/-- Four letters are four bytes at least. -/
theorem four_le_bytesLeft (a b c d : Letter) (rest : List Letter) (offset : Nat) :
    4 ≤ Cursor.bytesLeft ⟨a :: b :: c :: d :: rest, offset⟩ := by
  have ha := a.utf8Size_pos
  have hb := b.utf8Size_pos
  have hc := c.utf8Size_pos
  have hd := d.utf8Size_pos
  have hrest := le_foldl_utf8Size rest (0 + a.utf8Size + b.utf8Size + c.utf8Size + d.utf8Size)
  unfold Cursor.bytesLeft
  simp only [List.foldl_cons]
  omega

theorem hexQuad_digits {digits : List Char} (hfour : digits.length = 4) {n : Nat}
    (hvalue : Text.hexValue? digits = some n) (rest : List Letter) (offset : Nat) :
    Cursor.hexQuad ⟨digits.map .char ++ rest, offset⟩ = .ok (n, ⟨rest, offset + 4⟩) := by
  match digits, hfour with
  | [a, b, c, d], _ =>
    have henough := four_le_bytesLeft (.char a) (.char b) (.char c) (.char d) rest offset
    have hdigits : (([a, b, c, d].map Letter.char).mapM Letter.char?) = some [a, b, c, d] :=
      Letter.mapM_char?_map_char _
    unfold Cursor.hexQuad
    rw [if_neg (by simpa using henough)]
    simp only [List.map_cons, List.map_nil] at hdigits
    simp [hdigits, hvalue]

/-- The control characters are written with two digits that count. -/
theorem hexValue?_paddedHexadecimal : ∀ n < 32,
    (Text.paddedHexadecimal 4 n).toList.length = 4 ∧
      Text.hexValue? (Text.paddedHexadecimal 4 n).toList = some n := by
  decide

end Escapes

section Reading

variable {fuel : Nat}

theorem writtenLetters_of_plain {c : Char} (hquote : c ≠ '"') (hslash : c ≠ '\\')
    (hcontrol : ¬ c.toNat < 32) : writtenLetters c = [.char c] := by
  have hnamed : c ≠ '\x08' ∧ c ≠ '\x0c' ∧ c ≠ '\n' ∧ c ≠ '\r' ∧ c ≠ '\t' := by
    refine ⟨?_, ?_, ?_, ?_, ?_⟩ <;> rintro rfl <;> exact hcontrol (by decide)
  simp [writtenLetters, writeChar, hquote, hslash, hnamed, hcontrol]

/-- A character without a letter of its own is written by its number. -/
theorem escape_of_control {c : Char} (hcontrol : c.toNat < 32) (more : List Letter)
    (offset : Nat) : ∃ offset', Cursor.unicodeEscape
      ⟨(Text.paddedHexadecimal 4 c.toNat).toList.map .char ++ more, offset⟩ =
        .ok (c, ⟨more, offset'⟩) := by
  obtain ⟨hfour, hvalue⟩ := hexValue?_paddedHexadecimal c.toNat hcontrol
  refine ⟨offset + 4, ?_⟩
  have hlow : Cursor.closesPair c.toNat = false ∧ Cursor.opensPair c.toNat = false := by
    simp only [Cursor.closesPair, Cursor.opensPair, Bool.and_eq_false_iff, decide_eq_false_iff_not]
    omega
  simp only [Cursor.unicodeEscape, hexQuad_digits hfour hvalue, bind, Except.bind, hlow,
    Bool.false_eq_true, if_false, Char.ofNat_toNat]

/-- One written character is read in one step. -/
theorem textBody_written (c : Char) (more : List Letter) (offset : Nat) (read : List Letter) :
    ∃ offset', Cursor.textBody (fuel + 1) ⟨writtenLetters c ++ more, offset⟩ read =
      Cursor.textBody fuel ⟨more, offset'⟩ (.char c :: read) := by
  by_cases hnamed : c = '"' ∨ c = '\\' ∨ c = '\x08' ∨ c = '\x0c' ∨ c = '\n' ∨ c = '\r' ∨ c = '\t'
  · -- a backslash and a letter stand for the character
    rcases hnamed with rfl | rfl | rfl | rfl | rfl | rfl | rfl <;> exact ⟨_, rfl⟩
  · simp only [not_or] at hnamed
    obtain ⟨hquote, hslash, hnamed⟩ := hnamed
    by_cases hcontrol : c.toNat < 32
    · obtain ⟨offset', hescape⟩ := escape_of_control hcontrol more
        (offset + '\\'.utf8Size + 'u'.utf8Size)
      have hwritten : writtenLetters c = .char '\\' :: .char 'u' ::
          (Text.paddedHexadecimal 4 c.toNat).toList.map .char := by
        simp [writtenLetters, writeChar, hquote, hslash, hnamed, hcontrol]
      refine ⟨offset', ?_⟩
      rw [hwritten]
      simp only [List.cons_append, Cursor.textBody, Cursor.skip, Cursor.escape, Letter.utf8Size,
        hescape, bind, Except.bind]
    · have hplain : Cursor.isControl (.char c) = false := by
        simp [Cursor.isControl, Letter.char?, hcontrol]
      refine ⟨offset + c.utf8Size, ?_⟩
      rw [writtenLetters_of_plain hquote hslash hcontrol, List.singleton_append, Cursor.textBody]
      dsimp only
      split
      next h => cases h
      next h => exact absurd (Letter.char.inj (List.cons.inj h).1) hquote
      next h => exact absurd (Letter.char.inj (List.cons.inj h).1) hslash
      next h =>
        cases h
        rw [hplain, if_neg Bool.false_ne_true]
        rfl

/-- Written letters are read back as the text that they were written for, up to the closing
quote. -/
theorem textBody_writtenLetters (cs read : List Char) (hfuel : cs.length < fuel)
    (more : List Letter) (offset : Nat) : ∃ offset', Cursor.textBody fuel
        ⟨cs.flatMap writtenLetters ++ .char '"' :: more, offset⟩ (read.map .char) =
      .ok (String.ofList (read.reverse ++ cs), ⟨more, offset'⟩) := by
  induction cs generalizing fuel offset read with
  | nil =>
    obtain ⟨fuel, rfl⟩ := Nat.exists_eq_add_of_lt hfuel
    refine ⟨offset + 1, ?_⟩
    have hkept : (read.map Letter.char).reverse.mapM Letter.char? = some read.reverse := by
      rw [← List.map_reverse, Letter.mapM_char?_map_char]
    simp only [List.flatMap_nil, List.nil_append, Cursor.textBody, hkept, List.append_nil]
    rfl
  | cons c cs ih =>
    obtain ⟨fuel, rfl⟩ := Nat.exists_eq_add_of_lt hfuel
    obtain ⟨between, hstep⟩ := textBody_written c
      (cs.flatMap writtenLetters ++ .char '"' :: more) offset (read.map .char)
    have hleft : cs.length < (c :: cs).length + fuel := by
      rw [List.length_cons]
      omega
    obtain ⟨offset', hrest⟩ := ih (c :: read) hleft between
    refine ⟨offset', ?_⟩
    rw [List.flatMap_cons, List.append_assoc, hstep]
    simpa using hrest

theorem writtenLetters_ne_nil (c : Char) : writtenLetters c ≠ [] := by
  by_cases hnamed : c = '"' ∨ c = '\\' ∨ c = '\x08' ∨ c = '\x0c' ∨ c = '\n' ∨ c = '\r' ∨ c = '\t'
  · rcases hnamed with rfl | rfl | rfl | rfl | rfl | rfl | rfl <;> decide
  · simp only [not_or] at hnamed
    by_cases hcontrol : c.toNat < 32
    · simp [writtenLetters, writeChar, hnamed, hcontrol]
    · simp [writtenLetters_of_plain hnamed.1 hnamed.2.1 hcontrol]

theorem length_le_flatMap_writtenLetters (cs : List Char) :
    cs.length ≤ (cs.flatMap writtenLetters).length := by
  induction cs with
  | nil => exact Nat.le_refl 0
  | cons c cs ih =>
    have hone := List.length_pos_iff.mpr (writtenLetters_ne_nil c)
    rw [List.flatMap_cons, List.length_append, List.length_cons]
    omega

/-- A written text is read as the text itself. -/
theorem read_writeText (s : String) : read .text (writeText s) = .ok (.text s) := by
  have hletters : (writeText s).toList.map Letter.char =
      .char '"' :: (s.toList.flatMap writtenLetters ++ [.char '"']) := by
    simp only [writeText, String.toList_append, String.toList_join, List.map_append,
      List.flatMap_map, List.map_flatMap]
    rfl
  have hfuel : s.toList.length <
      (s.toList.flatMap writtenLetters ++ [Letter.char '"']).length + 1 := by
    have hlength := length_le_flatMap_writtenLetters s.toList
    rw [List.length_append]
    omega
  obtain ⟨offset, htext⟩ := textBody_writtenLetters s.toList [] hfuel [] 1
  have hvalue (fuel : Nat) : value (fuel + 1) depthLimit .text
      (Cursor.start (.char '"' :: (s.toList.flatMap writtenLetters ++ [.char '"']))) =
        .ok (.text s, ⟨[], offset⟩) := by
    have hfull : Cursor.text ⟨s.toList.flatMap writtenLetters ++ [.char '"'], 1⟩ =
        .ok (s, ⟨[], offset⟩) := by
      rw [Cursor.text]
      simpa using htext
    rw [value]
    change (Cursor.text ⟨s.toList.flatMap writtenLetters ++ [.char '"'], 1⟩ >>= fun r => _) = _
    rw [hfull]
    rfl
  rw [read, hletters, readLetters, hvalue]
  rfl

end Reading

end DeployDrift.Json
