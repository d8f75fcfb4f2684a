import DeployDrift.Document
import DeployDrift.Text

/-!
# Pointers into documents

A pointer is a text of tokens, each behind a slash; `~1` and `~0` in a token stand for a slash and a
tilde.  `Document.find?` looks a pointer up, `Document.remove?` takes away what it leads to.  Where
the last token of a removal indexes a list it is read more loosely than in a look-up: a plus sign
and zeros may stand in front.
-/
namespace DeployDrift

namespace Pointer

/-- The token that an escaped text stands for. -/
def unescape : List Char → List Char
  | '~' :: '1' :: cs => '/' :: unescape cs
  | '~' :: '0' :: cs => '~' :: unescape cs
  | c :: cs => c :: unescape cs
  | [] => []

def token (cs : List Char) : String := String.ofList (unescape cs)

/-- The tokens of a pointer; `none` for a text that neither is empty nor starts with a slash. -/
def tokens? : List Char → Option (List String)
  | [] => some []
  | '/' :: cs => some ((Text.splitOnChar '/' cs).map token)
  | _ => none

def greatestIndex : Nat := 0xffffffffffffffff

/-- The list index that digits write, if it is not too great. -/
def indexOfDigits? (digits : List Char) : Option Nat :=
  if Text.isDecimal digits && Text.decimalValue digits ≤ greatestIndex then
    some (Text.decimalValue digits)
  else none

/-- The list index that a token writes: decimal digits without superfluous zeros. -/
def index? (token : String) : Option Nat :=
  match token.toList with
  | ['0'] => some 0
  | '0' :: _ => none
  | cs => indexOfDigits? cs

/-- The list index that a token writes where a plus sign and superfluous zeros are allowed. -/
def looseIndex? : (token : List Char) → Option Nat
  | '+' :: cs => indexOfDigits? cs
  | cs => indexOfDigits? cs

/-- The pointer is acceptable as an ignore rule: empty, or starting with a slash. -/
def isAcceptable (pointer : String) : Bool :=
  match pointer.toList with
  | [] => true
  | c :: _ => c == '/'

end Pointer

namespace Document

def child? (d : Document) (token : String) : Option Document :=
  match d with
  | .mapping fields => Table.get? fields token
  | .list items => (Pointer.index? token).bind fun i => items[i]?
  | _ => none

def at? (d : Document) : List String → Option Document
  | [] => some d
  | token :: rest => (d.child? token).bind fun c => c.at? rest

def find? (d : Document) (pointer : String) : Option Document :=
  (Pointer.tokens? pointer.toList).bind d.at?

/-- The document with the part that one token leads to replaced. -/
def replaceChild (d : Document) (token : String) (c : Document) : Document :=
  match d with
  | .mapping fields => .mapping (Table.modify fields token fun _ => c)
  | .list items =>
    match Pointer.index? token with
    | some i => .list (items.set i c)
    | none => d
  | _ => d

/-- Changes the part of the document that tokens lead to; `none` where they lead nowhere or the
change is refused. -/
def change? (f : Document → Option Document) : List String → Document → Option Document
  | [], d => f d
  | token :: rest, d =>
    (d.child? token).bind fun c => (change? f rest c).map (d.replaceChild token)

/-- The document without one of its members or elements; `none` if it has no such. -/
def removeChild? (last : List Char) (d : Document) : Option Document :=
  match d with
  | .mapping fields =>
    if Table.contains fields (String.ofList last) then
      some (.mapping (Table.erase fields (String.ofList last)))
    else none
  | .list items =>
    match Pointer.looseIndex? last with
    | some i => if i < items.length then some (.list (items.eraseIdx i)) else none
    | none => none
  | _ => none

/-- The document without what the pointer leads to; `none` if it leads nowhere. -/
def remove? (d : Document) (pointer : String) : Option Document := do
  let (parent, last) ← Text.splitLast? '/' pointer.toList
  let tokens ← Pointer.tokens? parent
  change? (removeChild? (Pointer.unescape last)) tokens d

/-- The document without what the pointer leads to, if it leads anywhere. -/
def remove (d : Document) (pointer : String) : Document := (d.remove? pointer).getD d

end Document
end DeployDrift

/-!
## Removal keeps documents well formed

Taking away what a pointer leads to leaves a well-formed document well formed, and a mapping a
mapping.
-/
namespace DeployDrift.Document

theorem WellFormed.child? {d c : Document} {token : String} (h : d.WellFormed)
    (hc : d.child? token = some c) : c.WellFormed := by
  cases d with
  | mapping fields => exact h.get? hc
  | list items =>
    simp only [Document.child?, Option.bind_eq_some_iff] at hc
    obtain ⟨i, -, hi⟩ := hc
    exact wellFormed_list.mp h _ (List.mem_of_getElem? hi)
  | _ => cases hc

theorem WellFormed.replaceChild {d c : Document} {token : String} (h : d.WellFormed)
    (hc : c.WellFormed) : (d.replaceChild token c).WellFormed := by
  cases d with
  | mapping fields => exact wellFormed_modify h token fun _ _ => hc
  | list items =>
    simp only [Document.replaceChild]
    split
    · refine wellFormed_list.mpr fun e he => ?_
      rcases List.mem_or_eq_of_mem_set he with he | rfl
      · exact wellFormed_list.mp h e he
      · exact hc
    · exact h
  | _ => exact h

theorem WellFormed.change? {f : Document → Option Document}
    (hf : ∀ d e, d.WellFormed → f d = some e → e.WellFormed) {tokens : List String}
    {d e : Document} (h : d.WellFormed) (he : Document.change? f tokens d = some e) :
    e.WellFormed := by
  induction tokens generalizing d e with
  | nil => exact hf d e h he
  | cons token rest ih =>
    simp only [Document.change?, Option.bind_eq_some_iff, Option.map_eq_some_iff] at he
    obtain ⟨c, hc, c', hc', rfl⟩ := he
    exact h.replaceChild (ih (h.child? hc) hc')

theorem WellFormed.removeChild? {last : List Char} {d e : Document} (h : d.WellFormed)
    (he : d.removeChild? last = some e) : e.WellFormed := by
  cases d with
  | mapping fields =>
    simp only [Document.removeChild?, Option.ite_none_right_eq_some, Option.some.injEq] at he
    exact he.2 ▸ wellFormed_erase h _
  | list items =>
    simp only [Document.removeChild?] at he
    split at he
    next i _ =>
      simp only [Option.ite_none_right_eq_some, Option.some.injEq] at he
      exact he.2 ▸ wellFormed_list.mpr fun x hx =>
        wellFormed_list.mp h x (List.mem_of_mem_eraseIdx hx)
    next => cases he
  | _ => cases he

theorem WellFormed.remove? {pointer : String} {d e : Document} (h : d.WellFormed)
    (he : d.remove? pointer = some e) : e.WellFormed := by
  simp only [Document.remove?, Option.bind_eq_bind, Option.bind_eq_some_iff] at he
  obtain ⟨⟨parent, last⟩, -, tokens, -, he⟩ := he
  exact h.change? (fun _ _ hd hde => hd.removeChild? hde) he

theorem WellFormed.remove {d : Document} (h : d.WellFormed) (pointer : String) :
    (d.remove pointer).WellFormed := by
  unfold Document.remove
  cases hr : d.remove? pointer with
  | none => exact h
  | some e => exact h.remove? hr

/-- A mapping stays a mapping whatever is changed inside it, if the change keeps mappings. -/
theorem change?_mapping {f : Document → Option Document}
    (hf : ∀ fields e, f (.mapping fields) = some e → ∃ fields', e = .mapping fields')
    {tokens : List String} {fields : Fields} {e : Document}
    (he : change? f tokens (.mapping fields) = some e) : ∃ fields', e = .mapping fields' := by
  cases tokens with
  | nil => exact hf fields e he
  | cons token rest =>
    simp only [change?, Option.bind_eq_some_iff, Option.map_eq_some_iff] at he
    obtain ⟨c, -, c', -, rfl⟩ := he
    exact ⟨_, rfl⟩

theorem remove_mapping (fields : Fields) (pointer : String) :
    ∃ fields', (mapping fields).remove pointer = mapping fields' := by
  unfold remove
  cases hr : (mapping fields).remove? pointer with
  | none => exact ⟨fields, rfl⟩
  | some e =>
    simp only [remove?, Option.bind_eq_bind, Option.bind_eq_some_iff] at hr
    obtain ⟨⟨parent, last⟩, -, tokens, -, he⟩ := hr
    refine change?_mapping (fun fields e he => ?_) he
    simp only [removeChild?, Option.ite_none_right_eq_some, Option.some.injEq] at he
    exact ⟨_, he.2.symm⟩

end DeployDrift.Document
