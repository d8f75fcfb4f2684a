import DeployDrift.Network.Url
import DeployDrift.Proofs.Pointer.Tokens
import DeployDrift.Proofs.Text.Ends
import DeployDrift.Text.Bytes

/-!
# Percent encoding read back

The bytes that an escaped text stands for.  Escaping a text changes nothing of them.  They are those
of the text itself in UTF-8 exactly if it holds no escapes of its own, and fewer otherwise.  The
parameters of a query are read back as they were given, whatever they contain.
-/
namespace DeployDrift.Percent

open Text (bytes bytes_nil bytes_cons bytes_toList)

/-- The byte that two hexadecimal digits at the front of a text stand for. -/
def leadingByte? : List Char → Option UInt8
  | high :: low :: _ =>
    match Text.hexDigit? high, Text.hexDigit? low with
    | some h, some l => some (UInt8.ofNat (16 * h + l))
    | _, _ => none
  | _ => none

/-- The bytes that an escaped text stands for: those of its escapes, and the characters outside them
in UTF-8. -/
def decode : List Char → List UInt8
  | '%' :: high :: low :: cs =>
    match leadingByte? [high, low] with
    | some b => b :: decode cs
    | none => String.utf8EncodeChar '%' ++ decode (high :: low :: cs)
  | c :: cs => String.utf8EncodeChar c ++ decode cs
  | [] => []

/-- Two hexadecimal digits follow a `%` somewhere in the text. -/
def hasEscape : List Char → Bool
  | [] => false
  | c :: cs => (c == '%' && (leadingByte? cs).isSome) || hasEscape cs

/-- The name or value of a parameter in a query, in which `+` stands for a space. -/
def readParameter (cs : List Char) : List UInt8 :=
  decode (cs.map fun c => if c = '+' then ' ' else c)

/-- Names and values of the parameters in a query. -/
def readParameters (query : String) : List (List UInt8 × List UInt8) :=
  ((Text.splitOnChar '&' query.toList).filter (!·.isEmpty)).map fun piece =>
    match Text.splitFirst? '=' piece with
    | some (name, value) => (readParameter name, readParameter value)
    | none => (readParameter piece, [])

section Bytes

variable {c : Char} {cs ds : List Char}

theorem length_utf8EncodeChar_pos (c : Char) : 0 < (String.utf8EncodeChar c).length :=
  List.length_pos_iff.mpr String.utf8EncodeChar_ne_nil

theorem length_bytes_le (h : cs.Sublist ds) : (bytes cs).length ≤ (bytes ds).length := by
  induction h with
  | slnil => exact Nat.le_refl _
  | cons d _ ih =>
    rw [bytes_cons, List.length_append]
    omega
  | cons_cons d _ ih =>
    rw [bytes_cons, bytes_cons, List.length_append, List.length_append]
    omega

/-- A text is not shortened without losing bytes. -/
theorem eq_of_length_bytes_le (h : cs.Sublist ds) (hlength : (bytes ds).length ≤ (bytes cs).length) :
    cs = ds := by
  induction h with
  | slnil => rfl
  | cons d hrest _ =>
    have hshorter := length_bytes_le hrest
    have hpos := length_utf8EncodeChar_pos d
    rw [bytes_cons, List.length_append] at hlength
    omega
  | cons_cons d hrest ih =>
    rw [bytes_cons, bytes_cons, List.length_append, List.length_append] at hlength
    rw [ih (by omega)]

end Bytes

section Escapes

/-- The bytes of a character, listed one after another. -/
theorem toList_loop (b : ByteArray) (i : Nat) (acc : List UInt8) :
    ByteArray.toList.loop b i acc = acc.reverse ++ b.data.toList.drop i := by
  fun_induction ByteArray.toList.loop b i acc with
  | case1 i acc hi ih =>
    have hdrop : b.data.toList.drop i = b.get! i :: b.data.toList.drop (i + 1) := by
      simpa [ByteArray.get!, hi] using List.drop_eq_getElem_cons (l := b.data.toList) hi
    rw [ih, hdrop, List.reverse_cons, List.append_assoc, List.singleton_append]
  | case2 i acc hi =>
    have hend : b.data.toList.drop i = [] := List.drop_eq_nil_iff.mpr (Nat.le_of_not_gt hi)
    rw [hend, List.append_nil]

theorem escapeChar_eq (c : Char) : escapeChar c = (String.utf8EncodeChar c).flatMap escape := by
  have hbytes : c.toString.toUTF8.toList = String.utf8EncodeChar c := by
    have h := bytes_toList c.toString
    rw [ByteArray.toList, toList_loop, List.reverse_nil, List.nil_append, List.drop_zero, ← h,
      Char.toString_eq_singleton, String.toList_singleton, bytes_cons, bytes_nil, List.append_nil]
  rw [escapeChar, hbytes]

theorem hexDigit?_digitChar : ∀ d < 16, Text.hexDigit? (Nat.digitChar d).toUpper = some d := by
  decide

theorem escape_eq (b : UInt8) :
    escape b = ['%', (Nat.digitChar (b.toNat / 16)).toUpper,
      (Nat.digitChar (b.toNat % 16)).toUpper] := by
  have hlt : b.toNat < 256 := b.toNat_lt
  have hhigh : b.toNat / 16 < 16 := Nat.div_lt_of_lt_mul hlt
  rw [escape, Text.paddedHexadecimal, String.toList_ofList]
  by_cases hsmall : b.toNat < 16
  · rw [Nat.toDigits_of_lt_base hsmall, Nat.div_eq_of_lt hsmall, Nat.mod_eq_of_lt hsmall]
    rfl
  · rw [Nat.toDigits_of_base_le (by decide) (Nat.le_of_not_lt hsmall),
      Nat.toDigits_of_lt_base hhigh]
    rfl

theorem leadingByte?_escape (b : UInt8) (cs : List Char) :
    ∃ high low, escape b = ['%', high, low] ∧ leadingByte? (high :: low :: cs) = some b := by
  have hlt : b.toNat < 256 := b.toNat_lt
  have hvalue : 16 * (b.toNat / 16) + b.toNat % 16 = b.toNat := Nat.div_add_mod b.toNat 16
  refine ⟨_, _, escape_eq b, ?_⟩
  rw [leadingByte?, hexDigit?_digitChar _ (Nat.div_lt_of_lt_mul hlt),
    hexDigit?_digitChar _ (Nat.mod_lt _ (by decide))]
  simp [hvalue]

end Escapes

section Decoding

variable {c : Char} {cs : List Char}

theorem leadingByte?_front {high low : Char} (cs : List Char) :
    leadingByte? (high :: low :: cs) = leadingByte? [high, low] := rfl

/-- A character that starts no escape stands for its own bytes. -/
theorem decode_cons (h : c ≠ '%' ∨ leadingByte? cs = none) :
    decode (c :: cs) = String.utf8EncodeChar c ++ decode cs := by
  by_cases hc : c = '%'
  · subst hc
    have hnone : leadingByte? cs = none := h.resolve_left fun hne => hne rfl
    match cs with
    | [] => rfl
    | [_] => rfl
    | high :: low :: rest =>
      rw [leadingByte?_front] at hnone
      rw [decode, hnone]
  · rw [decode]
    intro high low rest heq _
    exact hc heq

theorem decode_escape (b : UInt8) (cs : List Char) : decode (escape b ++ cs) = b :: decode cs := by
  obtain ⟨high, low, hescape, hbyte⟩ := leadingByte?_escape b cs
  rw [leadingByte?_front] at hbyte
  rw [hescape, List.cons_append, List.cons_append, List.cons_append, List.nil_append, decode, hbyte]

theorem decode_escapes (bs : List UInt8) (cs : List Char) :
    decode (bs.flatMap escape ++ cs) = bs ++ decode cs := by
  induction bs with
  | nil => rfl
  | cons b bs ih => rw [List.flatMap_cons, List.append_assoc, decode_escape, ih, List.cons_append]

theorem decode_escapeChar (c : Char) (cs : List Char) :
    decode (escapeChar c ++ cs) = String.utf8EncodeChar c ++ decode cs := by
  rw [escapeChar_eq, decode_escapes]

/-- A text is read from its front: a character that stands for itself, or an escape. -/
@[elab_as_elim]
theorem readInduction {motive : List Char → Prop} (nil : motive [])
    (plain : ∀ c cs, c ≠ '%' ∨ leadingByte? cs = none → motive cs → motive (c :: cs))
    (escaped : ∀ high low b cs, leadingByte? [high, low] = some b → motive cs →
      motive ('%' :: high :: low :: cs)) (cs : List Char) : motive cs := by
  fun_induction decode cs with
  | case1 high low cs b hbyte ih => exact escaped high low b cs hbyte ih
  | case2 high low cs hbyte ih =>
    exact plain '%' _ (.inr hbyte) ih
  | case3 c cs hother ih =>
    refine plain c cs ?_ ih
    by_cases hc : c = '%'
    · right
      match cs with
      | [] => rfl
      | [_] => rfl
      | high :: low :: rest => exact absurd rfl (hother high low rest hc)
    · exact .inl hc
  | case4 => exact nil

theorem hasEscape_cons (h : c ≠ '%' ∨ leadingByte? cs = none) :
    hasEscape (c :: cs) = hasEscape cs := by
  rcases h with hc | hnone
  · simp [hasEscape, hc]
  · simp [hasEscape, hnone]

theorem decode_eq_bytes (h : hasEscape cs = false) : decode cs = bytes cs := by
  induction cs with
  | nil => rfl
  | cons c cs ih =>
    rw [hasEscape, Bool.or_eq_false_iff, Bool.and_eq_false_iff, beq_eq_false_iff_ne,
      Option.isSome_eq_false_iff, Option.isNone_iff_eq_none] at h
    rw [decode_cons h.1, bytes_cons, ih h.2]

/-- An escape stands for one byte and is three bytes long. -/
theorem length_decode_le (cs : List Char) : (decode cs).length ≤ (bytes cs).length ∧
    (hasEscape cs = true → (decode cs).length < (bytes cs).length) := by
  induction cs using readInduction with
  | nil => exact ⟨Nat.le_refl _, fun h => by cases h⟩
  | plain c cs h ih =>
    rw [decode_cons h, hasEscape_cons h, bytes_cons, List.length_append, List.length_append]
    exact ⟨Nat.add_le_add_left ih.1 _, fun hescape => Nat.add_lt_add_left (ih.2 hescape) _⟩
  | escaped high low b cs hbyte ih =>
    have hpercent := length_utf8EncodeChar_pos '%'
    have hhigh := length_utf8EncodeChar_pos high
    have hlow := length_utf8EncodeChar_pos low
    rw [decode, hbyte]
    simp only [bytes_cons, List.length_append, List.length_cons]
    omega

theorem decode_eq_bytes_iff : decode cs = bytes cs ↔ hasEscape cs = false := by
  constructor
  · intro h
    refine Bool.eq_false_iff.mpr fun hescape => ?_
    have hshorter := (length_decode_le cs).2 hescape
    rw [h] at hshorter
    exact Nat.lt_irrefl _ hshorter
  · exact decode_eq_bytes

theorem leadingByte?_of_first {high : Char} (h : Text.hexDigit? high = none) (cs : List Char) :
    leadingByte? (high :: cs) = none := by
  cases cs with
  | nil => rfl
  | cons low rest => rw [leadingByte?, h]

theorem leadingByte?_of_second {low : Char} (h : Text.hexDigit? low = none) (high : Char)
    (cs : List Char) : leadingByte? (high :: low :: cs) = none := by
  rw [leadingByte?, h]
  cases Text.hexDigit? high <;> rfl

theorem escapeChar_front (c : Char) : ∃ rest, escapeChar c = '%' :: rest := by
  rw [escapeChar_eq]
  cases h : String.utf8EncodeChar c with
  | nil => exact absurd h String.utf8EncodeChar_ne_nil
  | cons b bs =>
    rw [List.flatMap_cons, escape, List.cons_append]
    exact ⟨_, rfl⟩

theorem mem_escapeChar {d : Char} (h : c ∈ escapeChar d) :
    c = '%' ∨ (Text.hexDigit? c).isSome = true := by
  rw [escapeChar_eq] at h
  obtain ⟨b, -, hb⟩ := List.mem_flatMap.mp h
  have hlt : b.toNat < 256 := b.toNat_lt
  have hdigit (d : Nat) (hd : d < 16) : (Text.hexDigit? (Nat.digitChar d).toUpper).isSome := by
    rw [hexDigit?_digitChar d hd, Option.isSome_some]
  rw [escape_eq] at hb
  simp only [List.mem_cons, List.not_mem_nil, or_false] at hb
  rcases hb with rfl | rfl | rfl
  · exact .inl rfl
  · exact .inr (hdigit _ (Nat.div_lt_of_lt_mul hlt))
  · exact .inr (hdigit _ (Nat.mod_lt _ (by decide)))

end Decoding

section Encoding

variable {keep : Char → Bool}

/-- What an escape is made of stands for itself. -/
def KeepsEscapes (keep : Char → Bool) : Prop :=
  keep '%' = true ∧ ∀ c, (Text.hexDigit? c).isSome → keep c = true

theorem encode_cons (keep : Char → Bool) (c : Char) (cs : List Char) :
    encode keep (c :: cs) = (if keep c then [c] else escapeChar c) ++ encode keep cs :=
  List.flatMap_cons

theorem encode_cons_of_keep {c : Char} (h : keep c = true) (cs : List Char) :
    encode keep (c :: cs) = c :: encode keep cs := by
  rw [encode_cons, if_pos h, List.singleton_append]

theorem encode_cons_front {c : Char} (h : keep c ≠ true) (cs : List Char) :
    ∃ rest, encode keep (c :: cs) = '%' :: rest := by
  obtain ⟨rest, hrest⟩ := escapeChar_front c
  rw [encode_cons, if_neg h, hrest, List.cons_append]
  exact ⟨_, rfl⟩

/-- A character of the escaped text stands for itself, or it belongs to an escape. -/
theorem mem_encode {c : Char} {cs : List Char} (h : c ∈ encode keep cs) :
    (keep c = true ∧ c ∈ cs) ∨ c = '%' ∨ (Text.hexDigit? c).isSome = true := by
  obtain ⟨d, hd, hc⟩ := List.mem_flatMap.mp h
  split at hc
  next hkeep =>
    rw [List.mem_singleton] at hc
    subst hc
    exact .inl ⟨hkeep, hd⟩
  next => exact .inr (mem_escapeChar hc)

theorem keep_of_mem_encode (hkeep : KeepsEscapes keep) {c : Char} {cs : List Char}
    (h : c ∈ encode keep cs) : keep c = true := by
  rcases mem_encode h with h | rfl | h
  · exact h.1
  · exact hkeep.1
  · exact hkeep.2 c h

/-- Encoding neither makes an escape at the front nor breaks the one that stands there. -/
theorem leadingByte?_encode (hkeep : KeepsEscapes keep) (cs : List Char) :
    leadingByte? (encode keep cs) = leadingByte? cs := by
  have hdigit {c : Char} (h : keep c ≠ true) : Text.hexDigit? c = none :=
    Option.not_isSome_iff_eq_none.mp fun hsome => h (hkeep.2 c hsome)
  have hpercent : Text.hexDigit? '%' = none := by decide
  match cs with
  | [] => rfl
  | high :: cs =>
    by_cases hhigh : keep high = true
    · rw [encode_cons_of_keep hhigh]
      match cs with
      | [] => rfl
      | low :: cs =>
        by_cases hlow : keep low = true
        · rw [encode_cons_of_keep hlow, leadingByte?_front, ← leadingByte?_front cs]
        · obtain ⟨rest, hrest⟩ := encode_cons_front hlow cs
          rw [hrest, leadingByte?_of_second hpercent, leadingByte?_of_second (hdigit hlow)]
    · obtain ⟨rest, hrest⟩ := encode_cons_front hhigh cs
      rw [hrest, leadingByte?_of_first hpercent, leadingByte?_of_first (hdigit hhigh)]

/-- Encoded text stands for the same bytes, provided that escapes are kept. -/
theorem decode_encode (hkeep : KeepsEscapes keep) (cs : List Char) :
    decode (encode keep cs) = decode cs := by
  induction cs using readInduction with
  | nil => rfl
  | plain c cs h ih =>
    rw [decode_cons h, ← ih]
    by_cases hc : keep c = true
    · rw [encode_cons_of_keep hc, decode_cons (h.imp_right (leadingByte?_encode hkeep cs).trans)]
    · rw [encode_cons, if_neg hc, decode_escapeChar]
  | escaped high low b cs hbyte ih =>
    have hhigh : keep high = true := by
      refine hkeep.2 high (Option.isSome_iff_ne_none.mpr fun hnone => ?_)
      rw [leadingByte?_of_first hnone] at hbyte
      cases hbyte
    have hlow : keep low = true := by
      refine hkeep.2 low (Option.isSome_iff_ne_none.mpr fun hnone => ?_)
      rw [leadingByte?_of_second hnone] at hbyte
      cases hbyte
    rw [encode_cons_of_keep hkeep.1, encode_cons_of_keep hhigh, encode_cons_of_keep hlow, decode,
      decode, hbyte, ih]

theorem toNat_lt_of_hexDigit? {c : Char} (h : (Text.hexDigit? c).isSome) : c.toNat < 128 := by
  unfold Text.hexDigit? at h
  split at h
  next hdigit => exact Nat.lt_of_le_of_lt (UInt32.le_iff_toNat_le.mp hdigit.2) (by decide)
  next =>
    split at h
    next hsmall => exact Nat.lt_of_le_of_lt (UInt32.le_iff_toNat_le.mp hsmall.2) (by decide)
    next =>
      split at h
      next hlarge => exact Nat.lt_of_le_of_lt (UInt32.le_iff_toNat_le.mp hlarge.2) (by decide)
      next => cases h

theorem keepsEscapes_inPath : KeepsEscapes inPath := by
  have hascii : ∀ n < 128, (Text.hexDigit? (Char.ofNat n)).isSome →
      inPath (Char.ofNat n) = true := by decide
  refine ⟨by decide, fun c h => ?_⟩
  have hkeep := hascii c.toNat (toNat_lt_of_hexDigit? h)
  rw [Char.ofNat_toNat] at hkeep
  exact hkeep h

end Encoding

section Parameters

theorem mem_encodeParameter {s : String} {c : Char} (h : c ∈ encodeParameter s) :
    c = '+' ∨ inParameter c = true ∨ c = '%' ∨ (Text.hexDigit? c).isSome = true := by
  obtain ⟨d, -, hd⟩ := List.mem_flatMap.mp h
  by_cases hspace : d = ' '
  · rw [if_pos hspace, List.mem_singleton] at hd
    exact .inl hd
  · rw [if_neg hspace] at hd
    by_cases hkeep : inParameter d = true
    · rw [if_pos hkeep, List.mem_singleton] at hd
      exact .inr (.inl (hd ▸ hkeep))
    · rw [if_neg hkeep] at hd
      exact .inr (.inr (mem_escapeChar hd))

theorem ampersand_not_mem_encodeParameter (s : String) : '&' ∉ encodeParameter s :=
  fun h => absurd (mem_encodeParameter h) (by decide)

theorem equals_not_mem_encodeParameter (s : String) : '=' ∉ encodeParameter s :=
  fun h => absurd (mem_encodeParameter h) (by decide)

/-- Each character of a parameter is read back as its bytes, whatever stands behind it. -/
theorem readParameter_append (c : Char) (cs : List Char) :
    readParameter ((if c = ' ' then ['+'] else if inParameter c then [c] else escapeChar c) ++ cs) =
      String.utf8EncodeChar c ++ readParameter cs := by
  rw [readParameter, List.map_append]
  by_cases hspace : c = ' '
  · rw [if_pos hspace, hspace]
    exact decode_cons (.inl (by decide))
  · rw [if_neg hspace]
    by_cases hkeep : inParameter c = true
    · have hplus : c ≠ '+' := fun h => absurd (h ▸ hkeep) (by decide)
      have hpercent : c ≠ '%' := fun h => absurd (h ▸ hkeep) (by decide)
      rw [if_pos hkeep, List.map_singleton, if_neg hplus]
      exact decode_cons (.inl hpercent)
    · have hsame : (escapeChar c).map (fun c => if c = '+' then ' ' else c) = escapeChar c := by
        refine (List.map_congr_left fun d hd => if_neg ?_).trans (List.map_id _)
        rintro rfl
        exact absurd (mem_escapeChar hd) (by decide)
      rw [if_neg hkeep, hsame, decode_escapeChar]
      rfl

theorem readParameter_encodeParameter (s : String) :
    readParameter (encodeParameter s) = bytes s.toList := by
  rw [encodeParameter]
  induction s.toList with
  | nil => rfl
  | cons c cs ih => rw [List.flatMap_cons, readParameter_append, ih, bytes_cons]

/-- A parameter as it stands in a query. -/
def parameter (pair : String × String) : List Char :=
  encodeParameter pair.1 ++ '=' :: encodeParameter pair.2

theorem parameters_eq (pairs : List (String × String)) :
    parameters pairs = ['&'].intercalate (pairs.map parameter) := rfl

theorem ampersand_not_mem_parameter (pair : String × String) : '&' ∉ parameter pair := by
  simp [parameter, ampersand_not_mem_encodeParameter]

/-- Pieces that are free of the separator are found again when they are joined by it. -/
theorem splitOnChar_intercalate {sep : Char} {pieces : List (List Char)} (hne : pieces ≠ [])
    (h : ∀ piece ∈ pieces, sep ∉ piece) :
    Text.splitOnChar sep ([sep].intercalate pieces) = pieces := by
  induction pieces with
  | nil => exact absurd rfl hne
  | cons piece pieces ih =>
    have hpiece : sep ∉ piece := h piece List.mem_cons_self
    cases pieces with
    | nil => rw [List.intercalate_singleton, Text.splitOnChar_of_not_mem hpiece]
    | cons next rest =>
      rw [List.intercalate_cons_cons, List.append_assoc, List.singleton_append,
        Text.splitOnChar_front hpiece,
        ih (List.cons_ne_nil _ _) fun p hp => h p (List.mem_cons_of_mem _ hp)]

/-- A parameter and its value in UTF-8. -/
def parameterBytes (pair : String × String) : List UInt8 × List UInt8 :=
  (bytes pair.1.toList, bytes pair.2.toList)

/-- The parameters of a query are read back, whatever names and values contain. -/
theorem readParameters_parameters (pairs : List (String × String)) :
    readParameters (String.ofList (parameters pairs)) = pairs.map parameterBytes := by
  rw [readParameters, String.toList_ofList, parameters_eq]
  by_cases hnone : pairs = []
  · subst hnone
    rfl
  · have hwritten : ∀ piece ∈ pairs.map parameter, (!piece.isEmpty) = true :=
      List.forall_mem_map.mpr fun pair _ => by simp [parameter]
    have hpieces : ∀ piece ∈ pairs.map parameter, '&' ∉ piece :=
      List.forall_mem_map.mpr fun pair _ => ampersand_not_mem_parameter pair
    rw [splitOnChar_intercalate (mt List.map_eq_nil_iff.mp hnone) hpieces,
      List.filter_eq_self.mpr hwritten, List.map_map]
    refine List.map_congr_left fun pair _ => ?_
    simp only [Function.comp_apply, parameter, parameterBytes, readParameter_encodeParameter,
      Text.splitFirst?_append (equals_not_mem_encodeParameter pair.1)]

end Parameters
end DeployDrift.Percent
