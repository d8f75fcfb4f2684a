import DeployDrift.Proofs.Network.Percent

/-!
# Continuing a URL

A text put behind a URL that has neither query nor fragment continues its path: scheme, host and port
stay, and the segments of the text are gone along from where the URL leads.  Going along segments,
only those that are no dots are added, and they are added as they are, what may not stand for itself
escaped.  Behind a query or a fragment the path is not continued.
-/
namespace DeployDrift.Url

section Slashes

variable {c : Char} {cs piece : List Char}

theorem splitSlashes_ne_nil (cs : List Char) : splitSlashes cs ≠ [] := by
  cases cs with
  | nil => simp [splitSlashes]
  | cons c rest =>
    rw [splitSlashes]
    split
    · simp
    · split <;> simp

theorem splitSlashes_of_forall (h : ∀ c ∈ cs, isSlash c = false) : splitSlashes cs = [cs] := by
  induction cs with
  | nil => rfl
  | cons c rest ih =>
    rw [List.forall_mem_cons] at h
    rw [splitSlashes, h.1, if_neg Bool.false_ne_true, ih h.2]

/-- What stands before a slash and behind it is split independently. -/
theorem splitSlashes_append (before : List Char) (hc : isSlash c = true) (after : List Char) :
    splitSlashes (before ++ c :: after) = splitSlashes before ++ splitSlashes after := by
  induction before with
  | nil => simp [splitSlashes, hc]
  | cons d rest ih =>
    rw [List.cons_append, splitSlashes, splitSlashes, ih]
    by_cases hd : isSlash d = true
    · rw [if_pos hd, if_pos hd, List.cons_append]
    · rw [if_neg hd, if_neg hd]
      cases hpieces : splitSlashes rest with
      | nil => exact absurd hpieces (splitSlashes_ne_nil rest)
      | cons piece pieces => rfl

theorem mem_splitSlashes (h : piece ∈ splitSlashes cs) :
    piece.Sublist cs ∧ ∀ c ∈ piece, isSlash c = false := by
  induction cs generalizing piece with
  | nil =>
    rw [splitSlashes, List.mem_singleton] at h
    subst h
    exact ⟨List.Sublist.refl _, by simp⟩
  | cons c rest ih =>
    rw [splitSlashes] at h
    by_cases hc : isSlash c = true
    · rw [if_pos hc] at h
      rcases List.mem_cons.mp h with rfl | h
      · exact ⟨List.nil_sublist _, by simp⟩
      · exact ⟨(ih h).1.cons c, (ih h).2⟩
    · rw [if_neg hc] at h
      rw [Bool.not_eq_true] at hc
      cases hpieces : splitSlashes rest with
      | nil => exact absurd hpieces (splitSlashes_ne_nil rest)
      | cons first others =>
        rw [hpieces] at h ih
        rcases List.mem_cons.mp h with rfl | h
        · have hfirst := ih List.mem_cons_self
          exact ⟨hfirst.1.cons_cons c, List.forall_mem_cons.mpr ⟨hc, hfirst.2⟩⟩
        · have hother := ih (List.mem_cons_of_mem _ h)
          exact ⟨hother.1.cons c, hother.2⟩

end Slashes

section Segments

variable {before : List String} {segment : List Char} {segments rest : List (List Char)}

/-- The segment stands for one dot or two. -/
def IsDots (segment : List Char) : Prop :=
  plainDots segment = ['.'] ∨ plainDots segment = ['.', '.']

instance (segment : List Char) : Decidable (IsDots segment) :=
  inferInstanceAs (Decidable (_ ∨ _))

/-- A segment as it is sent. -/
def written (segment : List Char) : String := String.ofList (Percent.encode Percent.inPath segment)

/-- Where one segment leads from the path `before`, written backwards. -/
def enter (before : List String) (segment : List Char) : List String :=
  if plainDots segment = ['.', '.'] then before.drop 1
  else if plainDots segment = ['.'] then before
  else written segment :: before

theorem enter_of_not_isDots (h : ¬ IsDots segment) :
    enter before segment = written segment :: before := by
  rw [IsDots, not_or] at h
  rw [enter, if_neg h.2, if_neg h.1]

theorem isSlash_of_mem_written (h : ∀ c ∈ segment, isSlash c = false) :
    ∀ c ∈ (written segment).toList, Percent.inPath c = true ∧ isSlash c = false := by
  intro c hc
  rw [written, String.toList_ofList] at hc
  refine ⟨Percent.keep_of_mem_encode Percent.keepsEscapes_inPath hc, ?_⟩
  rcases Percent.mem_encode hc with hc | rfl | hdigit
  · exact h c hc.2
  · decide
  · refine Bool.eq_false_iff.mpr fun hslash => ?_
    rcases Bool.or_eq_true_iff.mp hslash with hc | hc <;> rw [of_decide_eq_true hc] at hdigit <;>
      cases hdigit

theorem decode_written (segment : List Char) :
    Percent.decode (written segment).toList = Percent.decode segment := by
  rw [written, String.toList_ofList, Percent.decode_encode Percent.keepsEscapes_inPath]

theorem hexDigit?_of_toLower {e : Char} (h : e.toLower = 'e') : (Text.hexDigit? e).isSome := by
  have hletter : e = 'e' ∨ e = 'E' := by
    unfold Char.toLower at h
    split at h
    next =>
      have hval : e.val + 32 = 101 := congrArg Char.val h
      have hlarge : e.val = 101 - 32 := by rw [← hval, UInt32.add_sub_cancel]
      exact .inr (Char.ext hlarge)
    next => exact .inl h
  rcases hletter with rfl | rfl <;> decide

/-- Without escapes only dots stand for dots. -/
theorem plainDots_of_hasEscape (h : Percent.hasEscape segment = false) :
    plainDots segment = segment := by
  fun_induction plainDots segment with
  | case1 e cs he ih =>
    obtain ⟨digit, hdigit⟩ := Option.isSome_iff_exists.mp (hexDigit?_of_toLower he)
    have htwo : Text.hexDigit? '2' = some 2 := by decide
    simp [Percent.hasEscape, Percent.leadingByte?, htwo, hdigit] at h
  | case2 e cs he => rfl
  | case3 c cs hother ih =>
    rw [Percent.hasEscape, Bool.or_eq_false_iff] at h
    rw [ih h.2]
  | case4 => rfl

theorem resolve_cons_of_ne_nil (before : List String) (segment : List Char) (hrest : rest ≠ []) :
    resolve before (segment :: rest) = resolve (enter before segment) rest := by
  rw [resolve]
  exact if_neg (by simp [hrest])

theorem resolve_singleton (before : List String) (segment : List Char) :
    resolve before [segment] =
      (enter before segment).reverse ++ (if IsDots segment then [""] else []) := by
  by_cases h : IsDots segment
  · rw [resolve, if_pos h]
    refine (if_pos ?_).trans (List.reverse_cons ..)
    simpa [IsDots] using h
  · rw [resolve, if_neg h, List.append_nil]
    refine (if_neg ?_).trans rfl
    simpa [IsDots] using h

theorem resolve_append (before : List String) (segments : List (List Char)) (hrest : rest ≠ []) :
    resolve before (segments ++ rest) = resolve (segments.foldl enter before) rest := by
  induction segments generalizing before with
  | nil => rfl
  | cons segment segments ih =>
    rw [List.cons_append, resolve_cons_of_ne_nil _ _ (List.append_ne_nil_of_right_ne_nil _ hrest),
      ih, List.foldl_cons]

/-- The path is where the segments lead; an empty segment follows if the last one is dots. -/
theorem resolve_concat (before : List String) (segments : List (List Char)) (last : List Char) :
    resolve before (segments ++ [last]) =
      ((segments ++ [last]).foldl enter before).reverse ++ (if IsDots last then [""] else []) := by
  rw [resolve_append _ _ (List.cons_ne_nil _ _), resolve_singleton, List.foldl_append,
    List.foldl_cons, List.foldl_nil]

theorem foldl_enter_of_not_isDots (before : List String)
    (h : ∀ segment ∈ segments, ¬ IsDots segment) :
    segments.foldl enter before = (segments.map written).reverse ++ before := by
  induction segments generalizing before with
  | nil => rfl
  | cons segment segments ih =>
    rw [List.forall_mem_cons] at h
    rw [List.foldl_cons, enter_of_not_isDots h.1, ih _ h.2, List.map_cons, List.reverse_cons,
      List.append_assoc, List.singleton_append]

theorem resolve_of_not_isDots (before : List String) (h : ∀ segment ∈ segments, ¬ IsDots segment) :
    resolve before segments = before.reverse ++ segments.map written := by
  rcases List.eq_nil_or_concat segments with rfl | ⟨front, last, rfl⟩
  · rw [resolve, List.map_nil, List.append_nil]
  · have hlast : ¬ IsDots last := h last (by simp)
    rw [List.concat_eq_append] at h ⊢
    rw [resolve_concat, foldl_enter_of_not_isDots _ h, if_neg hlast, List.append_nil,
      List.reverse_append, List.reverse_reverse]

section Places

variable {P : String → Prop} {i : Nat}

theorem of_mem_getElem?_concat {path : List String} {text : String}
    (hpath : ∀ t ∈ path[i]?, P t) (htext : P text) : ∀ t ∈ (path ++ [text])[i]?, P t := by
  intro t ht
  rw [List.getElem?_append] at ht
  split at ht
  next => exact hpath t ht
  next =>
    have hmem := List.mem_of_getElem? ht
    rw [List.mem_singleton.mp hmem]
    exact htext

theorem of_mem_getElem?_enter (hbefore : ∀ t ∈ before.reverse[i]?, P t)
    (hsegment : ¬ IsDots segment → P (written segment)) :
    ∀ t ∈ (enter before segment).reverse[i]?, P t := by
  rw [enter]
  split
  next =>
    intro t ht
    cases before with
    | nil => exact hbefore t ht
    | cons last front =>
      refine hbefore t ?_
      rw [List.drop_one, List.tail_cons] at ht
      obtain ⟨hlt, -⟩ := List.getElem?_eq_some_iff.mp ht
      rw [List.reverse_cons, List.getElem?_append_left hlt]
      exact ht
  next htwo =>
    split
    next => exact hbefore
    next hone =>
      rw [List.reverse_cons]
      exact of_mem_getElem?_concat hbefore (hsegment (not_or.mpr ⟨hone, htwo⟩))

theorem of_mem_getElem?_foldl_enter (hbefore : ∀ t ∈ before.reverse[i]?, P t)
    (hsegments : ∀ segment ∈ segments, ¬ IsDots segment → P (written segment)) :
    ∀ t ∈ (segments.foldl enter before).reverse[i]?, P t := by
  induction segments generalizing before with
  | nil => exact hbefore
  | cons segment segments ih =>
    rw [List.forall_mem_cons] at hsegments
    exact ih (of_mem_getElem?_enter hbefore hsegments.1) hsegments.2

/-- What holds of the empty segment and of all segments gone along that are no dots, holds of the
segment that is found at a place, unless the path they start from has one there. -/
theorem of_mem_getElem?_resolve (hempty : P "") (hbefore : ∀ t ∈ before.reverse[i]?, P t)
    (hsegments : ∀ segment ∈ segments, ¬ IsDots segment → P (written segment)) :
    ∀ t ∈ (resolve before segments)[i]?, P t := by
  rcases List.eq_nil_or_concat segments with rfl | ⟨front, last, rfl⟩
  · exact hbefore
  · rw [List.concat_eq_append] at hsegments ⊢
    have hpath := of_mem_getElem?_foldl_enter hbefore hsegments
    rw [resolve_concat]
    split
    next => exact of_mem_getElem?_concat hpath hempty
    next => rwa [List.append_nil]

end Places

end Segments

section Locating

/-- The URL ends in its path. -/
def IsOpen (u : Url) : Prop := u.query = none ∧ u.fragment = none

/-- A URL of which the path and what follows it are not taken apart. -/
structure Located where
  secure : Bool
  host : String
  port : Option Nat
  /-- What stands behind host and port. -/
  behind : List Char

/-- The character ends host and port. -/
def isEnd (c : Char) : Bool := isSlash c || c = '?' || c = '#'

/-- Host and port that are written in front of a path. -/
def server? (secure : Bool) (authority : List Char) : Option (String × Option Nat) :=
  let authority := match Text.splitLast? '@' authority with
    | some (_, behind) => behind
    | none => authority
  let (host, port) := splitPort authority
  match Host.normalize? host, port? (if secure then 443 else 80) port with
  | some host, some port => some (host, port)
  | _, _ => none

/-- The text that is read as a URL. -/
def legible (cs : List Char) : List Char :=
  cs.filter fun c => c ≠ '\t' && c ≠ '\n' && c ≠ '\r'

def isBlank (c : Char) : Bool := c.toNat ≤ 32

def locate (cs : List Char) : Except UrlFault Located :=
  match splitScheme? cs with
  | none => .error .malformed
  | some (scheme, rest) =>
    if scheme ≠ "http" && scheme ≠ "https" then
      .error (.otherScheme (scheme ++ ":" ++ String.ofList (Percent.encode (· ≠ ' ') rest)))
    else
      let rest := rest.dropWhile isSlash
      let authority := rest.takeWhile fun c => !isEnd c
      match server? (scheme = "https") authority with
      | some (host, port) => .ok ⟨scheme = "https", host, port, rest.drop authority.length⟩
      | none => .error .malformed

/-- The path of a URL as it is written, without query and fragment. -/
def pathPart (cs : List Char) : List Char := cs.takeWhile fun c => c ≠ '?' && c ≠ '#'

def Located.url (l : Located) : Url :=
  let rest := l.behind.drop (pathPart l.behind).length
  let (query, fragment) := match Text.splitFirst? '#' rest with
    | some (query, fragment) => (query, some fragment)
    | none => (rest, none)
  { secure := l.secure, host := l.host, port := l.port
    path := resolve [] (splitSlashes ((pathPart l.behind).drop 1))
    query := match query with
      | '?' :: query => some (String.ofList (Percent.encode Percent.inQuery query))
      | _ => none
    fragment := fragment.map fun f => String.ofList (Percent.encode Percent.inFragment f) }

/-- A URL is read in two steps: the place of its server, and then the path behind it. -/
theorem parse_eq (s : String) :
    parse s = (locate (legible (Text.trimBy isBlank s.toList))).map Located.url := by
  unfold parse locate server? legible isBlank isEnd
  generalize (Text.trimBy (fun c => decide (c.toNat ≤ 32)) s.toList).filter
    (fun c => c ≠ '\t' && c ≠ '\n' && c ≠ '\r') = cs
  dsimp only
  cases splitScheme? cs with
  | none => rfl
  | some parts =>
    obtain ⟨scheme, rest⟩ := parts
    dsimp only
    split
    next => rfl
    next =>
      simp only [decide_eq_true_eq]
      generalize Host.normalize? _ = host?
      generalize port? _ _ = port?
      cases host? <;> cases port? <;> rfl

variable {secure : Bool} {scheme : String} {c : Char} {cs rest : List Char} {l : Located}

theorem server?_nil (secure : Bool) : server? secure [] = none := by
  cases secure <;> rfl

theorem splitScheme?_append (h : splitScheme? cs = some (scheme, rest)) (tail : List Char) :
    splitScheme? (cs ++ tail) = some (scheme, rest ++ tail) := by
  unfold splitScheme? at h ⊢
  split at h
  next first others behind hsplit =>
    rw [Text.splitFirst?_append_right hsplit]
    dsimp only
    split at h
    next hvalid =>
      rw [if_pos hvalid]
      cases h
      rfl
    next => cases h
  next => cases h

/-- Once a character ends host and port, what stands behind it is left for the path. -/
theorem locate_append (h : locate cs = .ok l) (hc : isEnd c = true) (tail : List Char) :
    locate (cs ++ c :: tail) = .ok { l with behind := l.behind ++ c :: tail } := by
  unfold locate at h ⊢
  split at h
  next => cases h
  next scheme rest hscheme =>
    rw [splitScheme?_append hscheme]
    dsimp only
    split at h
    next => cases h
    next hknown =>
      rw [if_neg hknown]
      dsimp only at h ⊢
      split at h
      next host port hserver =>
        cases h
        have hrest : rest.dropWhile isSlash ≠ [] := by
          intro hnil
          rw [hnil, List.takeWhile_nil, server?_nil] at hserver
          cases hserver
        have hstops : Text.Stops (fun c => !isEnd c) (c :: tail) := by simp [hc]
        have hlength := (List.takeWhile_prefix (fun c => !isEnd c)
          (l := rest.dropWhile isSlash)).length_le
        rw [List.dropWhile_append, if_neg (by simpa using hrest),
          Text.takeWhile_append_of_stops _ hstops, hserver, List.drop_append_of_le_length hlength]
      next => cases h

theorem pathPart_eq_self_iff : pathPart cs = cs ↔ ∀ c ∈ cs, c ≠ '?' ∧ c ≠ '#' := by
  have hall : (pathPart cs).all _ = true := List.all_takeWhile
  constructor
  · intro h
    rw [h, List.all_eq_true] at hall
    simpa using hall
  · intro h
    have hkept : ∀ c ∈ cs, (c ≠ '?' && c ≠ '#') = true := by simpa using h
    have hfront := Text.takeWhile_append hkept (Text.stops_nil _)
    rwa [List.append_nil] at hfront

theorem pathPart_append (h : pathPart cs = cs) (tail : List Char) :
    pathPart (cs ++ tail) = cs ++ pathPart tail := by
  rw [pathPart_eq_self_iff] at h
  exact List.takeWhile_append_of_pos (by simpa using h)

theorem ne_of_mem_pathPart (h : c ∈ pathPart cs) : c ≠ '?' ∧ c ≠ '#' := by
  have hall : (pathPart cs).all _ = true := List.all_takeWhile
  simpa using List.all_eq_true.mp hall c h

/-- Once the path has ended, it is not continued. -/
theorem pathPart_append_of_ne (h : pathPart cs ≠ cs) (tail : List Char) :
    pathPart (cs ++ tail) = pathPart cs := by
  have hlength : (pathPart cs).length ≠ cs.length :=
    fun heq => h ((List.takeWhile_prefix _).eq_of_length heq)
  exact List.takeWhile_append.trans (if_neg hlength)

theorem Located.url_of_pathPart (h : pathPart l.behind = l.behind) :
    l.url = ⟨l.secure, l.host, l.port, resolve [] (splitSlashes (l.behind.drop 1)), none, none⟩ := by
  rw [Located.url]
  dsimp only
  rw [h, List.drop_length]
  rfl

/-- Without query and fragment all that stands behind host and port is the path. -/
theorem Located.pathPart_behind (h : l.url.IsOpen) : pathPart l.behind = l.behind := by
  obtain ⟨hquery, hfragment⟩ := h
  unfold Located.url at hquery hfragment
  dsimp only at hquery hfragment
  rw [pathPart, Text.drop_length_takeWhile] at hquery hfragment
  have hstops := Text.stops_dropWhile (fun c => c ≠ '?' && c ≠ '#') l.behind
  have hsplit := List.takeWhile_append_dropWhile (p := fun c => c ≠ '?' && c ≠ '#') (l := l.behind)
  cases hnone : Text.splitFirst? '#' (l.behind.dropWhile fun c => c ≠ '?' && c ≠ '#') with
  | some parts =>
    rw [hnone] at hfragment
    cases hfragment
  | none =>
    rw [hnone] at hquery
    dsimp only at hquery
    rw [Text.splitFirst?_eq_none_iff] at hnone
    cases hrest : l.behind.dropWhile fun c => c ≠ '?' && c ≠ '#' with
    | nil =>
      rw [hrest, List.append_nil] at hsplit
      exact hsplit
    | cons c rest =>
      rw [hrest] at hstops hquery hnone
      have hend : c = '?' ∨ c = '#' := by
        simpa [Classical.or_iff_not_imp_left] using Text.stops_cons.mp hstops
      rcases hend with rfl | rfl
      · cases hquery
      · exact absurd List.mem_cons_self hnone

theorem Located.isOpen_iff : l.url.IsOpen ↔ pathPart l.behind = l.behind := by
  constructor
  · exact Located.pathPart_behind
  · intro h
    rw [Located.url_of_pathPart h]
    exact ⟨rfl, rfl⟩

/-- Where the path leads, written backwards. -/
def Located.directory (l : Located) : List String :=
  match l.behind with
  | [] => []
  | _ :: path => (splitSlashes path).foldl enter []

/-- The path is where it leads, apart from an empty segment at its end. -/
theorem Located.directory_or (h : pathPart l.behind = l.behind) :
    l.directory.reverse = l.url.path ∨ l.directory.reverse ++ [""] = l.url.path := by
  rw [Located.url_of_pathPart h, Located.directory]
  cases l.behind with
  | nil => exact .inr rfl
  | cons c path =>
    dsimp only
    rw [List.drop_one, List.tail_cons]
    rcases List.eq_nil_or_concat (splitSlashes path) with hnil | ⟨front, last, hlast⟩
    · exact absurd hnil (splitSlashes_ne_nil path)
    · rw [hlast, List.concat_eq_append, resolve_concat]
      split
      next => exact .inr rfl
      next => exact .inl (List.append_nil _).symm

theorem Located.path_append (h : pathPart l.behind = l.behind) (cs : List Char) :
    ({ l with behind := l.behind ++ '/' :: cs } : Located).url.path =
      resolve l.directory (splitSlashes (pathPart cs)) := by
  rw [Located.url]
  dsimp only
  rw [pathPart_append h, Located.directory]
  have hslash : pathPart ('/' :: cs) = '/' :: pathPart cs := rfl
  rw [hslash]
  cases l.behind with
  | nil => rfl
  | cons c path =>
    rw [List.cons_append, List.drop_one, List.tail_cons, splitSlashes_append _ rfl,
      resolve_append _ _ (splitSlashes_ne_nil _)]

/-- What is left of a text that stands behind a URL: no blanks at its end, and no line breaks. -/
def tail (cs : List Char) : List Char := legible (Text.trimBack isBlank cs)

theorem tail_append (h : Text.Closes isBlank cs) (ds : List Char) :
    tail (cs ++ ds) = legible cs ++ tail ds := by
  rw [tail, Text.trimBack_append h, legible, List.filter_append]
  rfl

theorem legible_eq_self_iff : legible cs = cs ↔ ∀ c ∈ cs, c ≠ '\t' ∧ c ≠ '\n' ∧ c ≠ '\r' := by
  rw [legible, List.filter_eq_self]
  simp [and_assoc]

/-- What a URL becomes when a text is put behind it, which leads on from `directory`. -/
structure Continues (base : Url) (directory : List String) (cs : List Char) (url : Url) : Prop where
  server : url.secure = base.secure ∧ url.host = base.host ∧ url.port = base.port
  path : url.path = resolve directory (splitSlashes (pathPart (tail cs)))
  pure : pathPart (tail cs) = tail cs → url.IsOpen

variable {s : String} {base : Url}

/-- What is put behind a URL with no blanks at its end stands behind its host and port. -/
theorem exists_located (h : parse s = .ok base) (hend : Text.Closes isBlank s.toList) :
    ∃ l : Located, base = l.url ∧ ∀ cs, parse (s ++ String.ofList ('/' :: cs)) =
      .ok ({ l with behind := l.behind ++ '/' :: tail cs } : Located).url := by
  rw [parse_eq] at h
  cases hlocate : locate (legible (Text.trimBy isBlank s.toList)) with
  | error fault =>
    rw [hlocate] at h
    cases h
  | ok l =>
    rw [hlocate] at h
    refine ⟨l, (Except.ok.inj h).symm, fun cs => ?_⟩
    have hne : s.toList ≠ [] := by
      intro hnil
      rw [hnil] at hlocate
      cases hlocate
    have hlast : Text.Closes isBlank ['/'] := by decide
    have hslash : Text.trimBack isBlank ('/' :: cs) = '/' :: Text.trimBack isBlank cs :=
      Text.trimBack_append hlast cs
    rw [parse_eq, String.toList_append, String.toList_ofList, Text.trimBy_append hend hne, hslash,
      legible, List.filter_append, List.filter_cons_of_pos (by decide)]
    exact congrArg _ (locate_append hlocate (by decide) (tail cs))

/-- A URL without query and fragment is continued by what is put behind it. -/
theorem parse_append (h : parse s = .ok base) (hopen : base.IsOpen)
    (hend : Text.Closes isBlank s.toList) :
    ∃ directory : List String,
      (directory.reverse = base.path ∨ directory.reverse ++ [""] = base.path) ∧
      ∀ cs, ∃ url, parse (s ++ String.ofList ('/' :: cs)) = .ok url ∧
        Continues base directory cs url := by
  obtain ⟨l, rfl, hwhole⟩ := exists_located h hend
  have hbehind := Located.isOpen_iff.mp hopen
  refine ⟨l.directory, Located.directory_or hbehind, fun cs =>
    ⟨_, hwhole cs, ⟨rfl, rfl, rfl⟩, Located.path_append hbehind (tail cs), fun hpure => ?_⟩⟩
  refine Located.isOpen_iff.mpr ?_
  dsimp only
  rw [pathPart_append hbehind]
  exact congrArg (l.behind ++ '/' :: ·) hpure

/-- The path of a URL with a query or a fragment stays as it is, whatever is put behind it. -/
theorem path_of_not_isOpen (h : parse s = .ok base) (hclosed : ¬ base.IsOpen)
    (hend : Text.Closes isBlank s.toList) (cs : List Char) :
    ∃ url, parse (s ++ String.ofList ('/' :: cs)) = .ok url ∧ url.path = base.path := by
  obtain ⟨l, rfl, hwhole⟩ := exists_located h hend
  refine ⟨_, hwhole cs, ?_⟩
  have hbehind := mt Located.isOpen_iff.mpr hclosed
  rw [Located.url, Located.url]
  dsimp only
  rw [pathPart_append_of_ne hbehind]

section Parameters

variable {u : Url}

/-- Where there is no query, the parameters added are those that are read. -/
theorem query_withParameters (h : u.query = none) (pairs : List (String × String)) :
    ((u.withParameters pairs).query.map Percent.readParameters).getD [] =
      pairs.map Percent.parameterBytes := by
  rw [← Percent.readParameters_parameters, withParameters, h]
  generalize String.ofList (Percent.parameters pairs) = added
  have hgiven : (decide ((none : Option String).getD "" ≠ "") && decide (added ≠ "")) ≠ true := by
    simp
  dsimp only
  rw [if_neg hgiven, Option.getD_none, String.empty_append]
  split
  next hempty =>
    rw [hempty]
    rfl
  next => rfl

end Parameters
end Locating
end DeployDrift.Url
