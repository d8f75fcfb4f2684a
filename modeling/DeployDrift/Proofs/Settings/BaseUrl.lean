import DeployDrift.Proofs.Text.Ends
import DeployDrift.Settings.Connection

/-!
# The URL of a connection

The settings are accepted where neither the server nor the token is blank.  The URL of the server is
then a scheme with something behind it that does not end in a slash.  It has the scheme that is
asked for, with something behind it that does not start with a slash either, and is the URL of a
connection to itself, exactly if the address is sound: behind the scheme it starts with another
character than a slash, and no blank stands before the slashes at its end.

White space is taken off the ends of an address first, then slashes off its end, and only then is a
scheme looked for.  So a blank before those slashes stays, and an address that is nothing but a
scheme has lost the slashes of the scheme and is taken for a host.  That goes unnoticed where the
scheme put in front of it is the same one.
-/
namespace DeployDrift

/-- A scheme under which a server is reached, written in small letters. -/
inductive Scheme where
  | http
  | https
  deriving DecidableEq, Repr

namespace Scheme

/-- How a URL of the scheme starts. -/
def lead : Scheme → String
  | .http => "http://"
  | .https => "https://"

/-- What is left of the start of a URL once slashes are taken off its end. -/
def word : Scheme → String
  | .http => "http:"
  | .https => "https:"

/-- The scheme for addresses that name none. -/
def ofFlag (plaintext : Bool) : Scheme := if plaintext then .http else .https

theorem lead_ofFlag (plaintext : Bool) :
    (ofFlag plaintext).lead = if plaintext then "http://" else "https://" := by
  cases plaintext <;> rfl

theorem lead_ne_nil (scheme : Scheme) : scheme.lead.toList ≠ [] := by
  cases scheme <;> decide

theorem stops_lead (scheme : Scheme) : Text.Stops Text.isBlank scheme.lead.toList := by
  cases scheme <;> exact Text.stops_cons.mpr (by decide)

theorem closes_lead (scheme : Scheme) : Text.Closes Text.isBlank scheme.lead.toList := by
  cases scheme <;> decide

theorem closes_word (scheme : Scheme) : Text.Closes Text.isBlank scheme.word.toList := by
  cases scheme <;> decide

/-- The word could be a host: it neither starts nor ends with a slash. -/
theorem word_between (scheme : Scheme) : scheme.word.toList ≠ [] ∧
    Text.Stops (· == '/') scheme.word.toList ∧ Text.Closes (· == '/') scheme.word.toList := by
  cases scheme <;> exact ⟨by decide, Text.stops_cons.mpr (by decide), by decide⟩

theorem trimBack_lead (scheme : Scheme) :
    Text.trimBack (· == '/') scheme.lead.toList = scheme.word.toList := by
  cases scheme <;> decide

theorem lead_append_inj {scheme other : Scheme} {cs ds : List Char}
    (h : scheme.lead.toList ++ cs = other.lead.toList ++ ds) : scheme = other ∧ cs = ds := by
  cases scheme <;> cases other <;> simp_all [lead]

end Scheme

/-- The address of a server: the scheme that it names, if it names one, and what stands behind
it. -/
structure Address where
  scheme? : Option Scheme
  rest : List Char
  deriving DecidableEq, Repr

namespace Address

/-- The address as it is written. -/
def text (a : Address) : List Char :=
  match a.scheme? with
  | some scheme => scheme.lead.toList ++ a.rest
  | none => a.rest

/-- Takes the scheme off the front of an address. -/
def read (cs : List Char) : Address :=
  match Text.dropLead? Scheme.http.lead.toList cs, Text.dropLead? Scheme.https.lead.toList cs with
  | some rest, _ => ⟨some .http, rest⟩
  | none, some rest => ⟨some .https, rest⟩
  | none, none => ⟨none, cs⟩

/-- The address that is given for a server, without the white space around it. -/
def ofServer (server : String) : Address := read (Text.trim server).toList

/-- The scheme that is asked for: the one that is written, or else the one of the flag. -/
def scheme (a : Address) (plaintext : Bool) : Scheme := a.scheme?.getD (.ofFlag plaintext)

/-- What stands behind the scheme, without slashes at its end. -/
def site (a : Address) : List Char := Text.trimBack (· == '/') a.rest

/-- Behind the scheme the address starts with another character than a slash, and no blank stands
before the slashes at its end. -/
structure Proper (a : Address) : Prop where
  front : a.rest ≠ [] ∧ Text.Stops (· == '/') a.rest
  back : Text.Closes Text.isBlank a.site

/-- The address is nothing but the scheme, with more slashes behind it or none. -/
def Bare (a : Address) (scheme : Scheme) : Prop :=
  a.scheme? = some scheme ∧ ∀ ch ∈ a.rest, ch = '/'

/-- The address is proper, or it is nothing but the scheme that is put in front of addresses that
name none. -/
def Sound (a : Address) (plaintext : Bool) : Prop := a.Proper ∨ a.Bare (.ofFlag plaintext)

variable {a : Address} {scheme : Scheme} {cs : List Char} {server : String} {plaintext : Bool}

theorem text_read (cs : List Char) : (read cs).text = cs := by
  unfold read
  split
  next rest h => exact (Text.dropLead?_eq_some_iff.mp h).symm
  next rest _ h => exact (Text.dropLead?_eq_some_iff.mp h).symm
  next => rfl

theorem not_prefix_of_read (h : (read cs).scheme? = none) (scheme : Scheme) :
    ¬ scheme.lead.toList <+: cs := by
  rintro ⟨rest, hrest⟩
  have hdrop := Text.dropLead?_eq_some_iff.mpr hrest.symm
  unfold read at h
  split at h
  next => cases h
  next => cases h
  next hhttp hhttps => cases scheme <;> simp_all

theorem read_lead_append (scheme : Scheme) (rest : List Char) :
    read (scheme.lead.toList ++ rest) = ⟨some scheme, rest⟩ := by
  have htext := text_read (scheme.lead.toList ++ rest)
  cases hread : read (scheme.lead.toList ++ rest) with
  | mk scheme? behind =>
    rw [hread] at htext
    cases scheme? with
    | none =>
      have hnone : (read (scheme.lead.toList ++ rest)).scheme? = none := by rw [hread]
      exact absurd (List.prefix_append _ rest) (not_prefix_of_read hnone scheme)
    | some other =>
      obtain ⟨rfl, rfl⟩ := Scheme.lead_append_inj htext
      rfl

theorem text_ofServer (server : String) : (ofServer server).text = (Text.trim server).toList :=
  text_read _

theorem trim_ne_empty (h : (ofServer server).scheme? = some scheme) : Text.trim server ≠ "" := by
  intro hempty
  have htext := text_ofServer server
  rw [hempty, text, h] at htext
  exact scheme.lead_ne_nil (List.append_eq_nil_iff.mp htext).1

theorem ofServer_trim (server : String) : ofServer (Text.trim server) = ofServer server := by
  rw [ofServer, Text.trim_trim, ofServer]

/-- Of a URL that is given for a server nothing is lost but the blanks at its end. -/
theorem ofServer_lead_append (scheme : Scheme) (site : List Char) :
    ofServer (scheme.lead ++ String.ofList site) =
      ⟨some scheme, Text.trimBack Text.isBlank site⟩ := by
  have hlead : Text.trimBy Text.isBlank scheme.lead.toList = scheme.lead.toList :=
    Text.trimBy_eq_self scheme.stops_lead scheme.closes_lead
  rw [ofServer, Text.toList_trim, String.toList_append, String.toList_ofList,
    Text.trimBy_append scheme.closes_lead scheme.lead_ne_nil, hlead, read_lead_append]

theorem closes_site (a : Address) : Text.Closes (· == '/') a.site := Text.closes_trimBack _ a.rest

theorem bare_iff : a.Bare scheme ↔ a.scheme? = some scheme ∧ a.site = [] := by
  rw [Bare, site, Text.trimBack_eq_nil_iff]
  simp only [beq_iff_eq]

theorem proper_iff : a.Proper ↔
    (a.site ≠ [] ∧ Text.Stops (· == '/') a.site) ∧ Text.Closes Text.isBlank a.site := by
  rw [site, Text.trimBack_stops_iff]
  exact ⟨fun h => ⟨h.front, h.back⟩, fun h => ⟨h.1, h.2⟩⟩

theorem sound_iff_of_bare (h : a.Bare scheme) :
    a.Sound plaintext ↔ scheme = .ofFlag plaintext := by
  obtain ⟨hscheme, hsite⟩ := bare_iff.mp h
  have hproper : ¬ a.Proper := fun hproper => (proper_iff.mp hproper).1.1 hsite
  rw [Sound, or_iff_right hproper, bare_iff, and_iff_left hsite, hscheme, Option.some.injEq]

end Address

namespace Connection

variable {server token : String} {insecure plaintext : Bool} {c : Connection} {scheme : Scheme}

/-- The URL is the scheme with something behind it that neither starts nor ends with a slash. -/
def Usable (scheme : Scheme) (url : String) : Prop :=
  ∃ site : List Char, url = scheme.lead ++ String.ofList site ∧ site ≠ [] ∧
    Text.Stops (· == '/') site ∧ Text.Closes (· == '/') site

/-- The URL is accepted for a server, and a connection to it has the same URL, whatever token and
flags go with it. -/
def Stable (url : String) : Prop :=
  ∀ token insecure plaintext, Text.trim token ≠ "" →
    ∃ c, resolve (some url) (some token) insecure plaintext = .ok c ∧ c.baseUrl = url

theorem nonBlank?_some (value : String) :
    nonBlank? (some value) = if Text.trim value = "" then none else some (Text.trim value) := by
  simp [nonBlank?, Option.filter_some]

theorem resolve_eq_ok_iff : resolve (some server) (some token) insecure plaintext = .ok c ↔
    Text.trim server ≠ "" ∧ Text.trim token ≠ "" ∧
      c = ⟨Text.trim server, Text.trim token, insecure, plaintext⟩ := by
  rw [resolve, nonBlank?_some, nonBlank?_some]
  by_cases hserver : Text.trim server = ""
  · simp [hserver]
  · by_cases htoken : Text.trim token = ""
    · simp [hserver, htoken]
    · simp [hserver, htoken, eq_comm]

/-- An accepted connection has the address that is given. -/
theorem of_resolve (h : resolve (some server) (some token) insecure plaintext = .ok c) :
    Address.ofServer c.server = Address.ofServer server ∧ c.plaintext = plaintext := by
  obtain ⟨-, -, rfl⟩ := resolve_eq_ok_iff.mp h
  exact ⟨Address.ofServer_trim server, rfl⟩

section Urls

variable {a : Address} {site : List Char}

theorem hasScheme_iff {url : String} :
    hasScheme url = true ↔ ∃ scheme : Scheme, scheme.lead.toList <+: url.toList := by
  rw [hasScheme, Bool.or_eq_true, Text.startsWith_iff, Text.startsWith_iff]
  constructor
  · rintro (h | h)
    · exact ⟨.http, h⟩
    · exact ⟨.https, h⟩
  · rintro ⟨_ | _, h⟩
    · exact .inl h
    · exact .inr h

theorem toList_trimEnd_trim (server : String) :
    (Text.trimEnd '/' (Text.trim server)).toList =
      Text.trimBack (· == '/') (Address.ofServer server).text := by
  rw [Text.toList_trimEnd, Address.text_ofServer]

theorem baseUrl_of_scheme (hscheme : (Address.ofServer c.server).scheme? = some scheme)
    (hsite : (Address.ofServer c.server).site ≠ []) :
    c.baseUrl = scheme.lead ++ String.ofList (Address.ofServer c.server).site := by
  have htrimmed : (Text.trimEnd '/' (Text.trim c.server)).toList =
      scheme.lead.toList ++ (Address.ofServer c.server).site := by
    rw [toList_trimEnd_trim, Address.text, hscheme]
    exact Text.trimBack_append_of_ne_nil hsite _
  have hhas : hasScheme (Text.trimEnd '/' (Text.trim c.server)) = true :=
    hasScheme_iff.mpr ⟨scheme, by rw [htrimmed]; exact List.prefix_append _ _⟩
  rw [baseUrl, if_pos hhas, ← String.toList_inj, htrimmed, String.toList_append,
    String.toList_ofList]

theorem baseUrl_of_no_scheme (hscheme : (Address.ofServer c.server).scheme? = none) :
    c.baseUrl = (Scheme.ofFlag c.plaintext).lead ++
      String.ofList (Address.ofServer c.server).site := by
  have htrimmed : (Text.trimEnd '/' (Text.trim c.server)).toList =
      (Address.ofServer c.server).site := by
    rw [toList_trimEnd_trim, Address.text, hscheme, Address.site]
  -- no scheme comes to light by taking slashes off the end
  have hhas : ¬ hasScheme (Text.trimEnd '/' (Text.trim c.server)) = true := by
    rw [hasScheme_iff]
    rintro ⟨scheme, hlead⟩
    rw [Text.toList_trimEnd] at hlead
    exact Address.not_prefix_of_read hscheme scheme (hlead.trans (Text.trimBack_isPrefix _ _))
  rw [baseUrl, if_neg hhas, ← Scheme.lead_ofFlag, ← htrimmed, String.ofList_toList]

/-- Of an address that is nothing but a scheme the word is left, and the scheme of the flag is put
in front of it. -/
theorem baseUrl_of_bare (ha : Address.ofServer c.server = a) (hbare : a.Bare scheme) :
    c.baseUrl = (Scheme.ofFlag c.plaintext).lead ++ String.ofList scheme.word.toList := by
  subst ha
  obtain ⟨hscheme, hsite⟩ := Address.bare_iff.mp hbare
  have htrimmed : (Text.trimEnd '/' (Text.trim c.server)).toList = scheme.word.toList := by
    rw [toList_trimEnd_trim, Address.text, hscheme, ← Scheme.trimBack_lead]
    exact Text.trimBack_append_of_eq_nil hsite _
  have hword : Text.trimEnd '/' (Text.trim c.server) = scheme.word :=
    String.toList_inj.mp htrimmed
  have hhas : ¬ hasScheme scheme.word = true := by cases scheme <;> decide
  rw [baseUrl, hword, if_neg hhas, ← Scheme.lead_ofFlag, String.ofList_toList]

/-- Of any other address the scheme is kept, and the URL is the scheme that is asked for with the
site behind it. -/
theorem baseUrl_of_not_bare (ha : Address.ofServer c.server = a) (h : ∀ scheme, ¬ a.Bare scheme) :
    c.baseUrl = (a.scheme c.plaintext).lead ++ String.ofList a.site := by
  subst ha
  cases hscheme : (Address.ofServer c.server).scheme? with
  | none => rw [baseUrl_of_no_scheme hscheme, Address.scheme, hscheme, Option.getD_none]
  | some scheme =>
    have hsite : (Address.ofServer c.server).site ≠ [] := fun hempty =>
      h scheme (Address.bare_iff.mpr ⟨hscheme, hempty⟩)
    rw [baseUrl_of_scheme hscheme hsite, Address.scheme, hscheme, Option.getD_some]

/-- An address is usable for the scheme that it starts with, if something without outer
slashes stands behind it. -/
theorem usable_lead_append_iff {other : Scheme} :
    Usable scheme (other.lead ++ String.ofList site) ↔
      other = scheme ∧ site ≠ [] ∧ Text.Stops (· == '/') site ∧ Text.Closes (· == '/') site := by
  constructor
  · rintro ⟨behind, hurl, hbehind⟩
    have hlist := congrArg String.toList hurl
    simp only [String.toList_append, String.toList_ofList] at hlist
    obtain ⟨rfl, rfl⟩ := Scheme.lead_append_inj hlist
    exact ⟨rfl, hbehind⟩
  · rintro ⟨rfl, hsite⟩
    exact ⟨site, rfl, hsite⟩

/-- A URL that ends in neither slash nor blank is its own base URL. -/
theorem stable_of_closes (hne : site ≠ []) (hslash : Text.Closes (· == '/') site)
    (hblank : Text.Closes Text.isBlank site) : Stable (scheme.lead ++ String.ofList site) := by
  intro token insecure plaintext htoken
  have haddress : Address.ofServer (scheme.lead ++ String.ofList site) = ⟨some scheme, site⟩ := by
    rw [Address.ofServer_lead_append, Text.trimBack_eq_self_iff.mpr hblank]
  have hnonblank := Address.trim_ne_empty (congrArg Address.scheme? haddress)
  obtain ⟨c, hresolve⟩ : ∃ c, resolve (some (scheme.lead ++ String.ofList site)) (some token)
      insecure plaintext = .ok c := ⟨_, resolve_eq_ok_iff.mpr ⟨hnonblank, htoken, rfl⟩⟩
  rw [← (of_resolve hresolve).1] at haddress
  have hsite : (Address.ofServer c.server).site = site := by
    rw [haddress, Address.site, Text.trimBack_eq_self_iff.mpr hslash]
  refine ⟨c, hresolve, ?_⟩
  rw [baseUrl_of_scheme (congrArg Address.scheme? haddress) (by rwa [hsite]), hsite]

/-- A blank at the end of the URL is lost when it is given for a server. -/
theorem closes_of_stable (h : Stable (scheme.lead ++ String.ofList site)) :
    Text.Closes Text.isBlank site := by
  obtain ⟨c, hresolve, hurl⟩ := h "token" false false (by decide)
  have haddress : Address.ofServer c.server = ⟨some scheme, Text.trimBack Text.isBlank site⟩ :=
    (of_resolve hresolve).1.trans (Address.ofServer_lead_append scheme site)
  rw [← String.toList_inj] at hurl
  by_cases hbare : (⟨some scheme, Text.trimBack Text.isBlank site⟩ : Address).Bare scheme
  · rw [baseUrl_of_bare haddress hbare] at hurl
    simp only [String.toList_append, String.toList_ofList] at hurl
    obtain ⟨-, hword⟩ := Scheme.lead_append_inj hurl
    rw [← hword]
    exact scheme.closes_word
  · have hkept : ∀ other, ¬ (⟨some scheme, Text.trimBack Text.isBlank site⟩ : Address).Bare other :=
      fun other hother => hbare (Option.some.inj hother.1 ▸ hother)
    rw [baseUrl_of_not_bare haddress hkept] at hurl
    simp only [String.toList_append, String.toList_ofList] at hurl
    exact Text.closes_of_trimBack_trimBack (Scheme.lead_append_inj hurl).2

theorem usable_stable_of_bare (ha : Address.ofServer c.server = a) (hbare : a.Bare scheme) :
    Usable (a.scheme c.plaintext) c.baseUrl ∧ Stable c.baseUrl ↔
      scheme = .ofFlag c.plaintext := by
  obtain ⟨hne, hstops, hcloses⟩ := scheme.word_between
  rw [baseUrl_of_bare ha hbare, usable_lead_append_iff, Address.scheme, hbare.1, Option.getD_some]
  constructor
  · rintro ⟨⟨hsame, -⟩, -⟩
    exact hsame.symm
  · rintro rfl
    exact ⟨⟨rfl, hne, hstops, hcloses⟩, stable_of_closes hne hcloses (Scheme.closes_word _)⟩

theorem usable_stable_of_not_bare (ha : Address.ofServer c.server = a)
    (h : ∀ scheme, ¬ a.Bare scheme) :
    Usable (a.scheme c.plaintext) c.baseUrl ∧ Stable c.baseUrl ↔ a.Proper := by
  rw [baseUrl_of_not_bare ha h, usable_lead_append_iff, Address.proper_iff]
  constructor
  · rintro ⟨⟨-, hne, hstops, -⟩, hstable⟩
    exact ⟨⟨hne, hstops⟩, closes_of_stable hstable⟩
  · rintro ⟨⟨hne, hstops⟩, hblank⟩
    exact ⟨⟨rfl, hne, hstops, a.closes_site⟩, stable_of_closes hne a.closes_site hblank⟩

end Urls

/-- The URL of an accepted connection is a scheme with something behind it that does not end in a
slash.  It is the scheme that is asked for, with something behind it that does not start with a
slash either, and the URL of a connection to itself, exactly if the address is sound. -/
theorem baseUrl_exact (h : resolve (some server) (some token) insecure plaintext = .ok c) :
    (∃ (scheme : Scheme) (site : List Char), c.baseUrl = scheme.lead ++ String.ofList site ∧
      Text.Closes (· == '/') site) ∧
    (Usable ((Address.ofServer server).scheme plaintext) c.baseUrl ∧ Stable c.baseUrl ↔
      (Address.ofServer server).Sound plaintext) := by
  obtain ⟨haddress, rfl⟩ := of_resolve h
  by_cases hbare : ∃ scheme, (Address.ofServer server).Bare scheme
  · obtain ⟨scheme, hbare⟩ := hbare
    refine ⟨⟨_, _, baseUrl_of_bare haddress hbare, scheme.word_between.2.2⟩, ?_⟩
    rw [usable_stable_of_bare haddress hbare, Address.sound_iff_of_bare hbare]
  · rw [not_exists] at hbare
    refine ⟨⟨_, _, baseUrl_of_not_bare haddress hbare, Address.closes_site _⟩, ?_⟩
    rw [usable_stable_of_not_bare haddress hbare, Address.Sound, or_iff_left (hbare _)]

/-- A server under a path. -/
def cdConnection : Connection := ⟨"https://argo.example.com/cd/", "secret", false, true⟩

/-- The scheme that is written counts, although the flag asks for another one. -/
theorem baseUrl_cd :
    resolve (some " https://argo.example.com/cd/ ") (some " secret ") false true =
        .ok cdConnection ∧
      Usable .https cdConnection.baseUrl ∧ Stable cdConnection.baseUrl := by
  have hresolve : resolve (some " https://argo.example.com/cd/ ") (some " secret ") false true =
      .ok cdConnection := by decide
  have hproper : (Address.ofServer " https://argo.example.com/cd/ ").Proper :=
    ⟨⟨by decide, Text.stops_cons.mpr (by decide)⟩, by decide⟩
  exact ⟨hresolve, (baseUrl_exact hresolve).2.mpr (.inl hproper)⟩

/-- A server that is given as nothing but `http://` is looked for under `https`, at a host that has
the name of the scheme. -/
theorem baseUrl_bareScheme :
    resolve (some "http://") (some "secret") false false =
        .ok ⟨"http://", "secret", false, false⟩ ∧
      (⟨"http://", "secret", false, false⟩ : Connection).baseUrl = "https://http:" ∧
      ¬ Usable ((Address.ofServer "http://").scheme false) "https://http:" := by
  refine ⟨by decide, by decide, ?_⟩
  have hscheme : (Address.ofServer "http://").scheme false = .http := by decide
  have hurl : "https://http:" = Scheme.https.lead ++ String.ofList Scheme.http.word.toList := by
    decide
  rw [hscheme, hurl, usable_lead_append_iff]
  rintro ⟨hsame, -⟩
  cases hsame

end Connection
end DeployDrift
