import TokenAgent.Identity.DerivationPath
import TokenAgent.Proofs.Identity.Locator

/-!
# Canonical texts as locators

A canonical text is a locator again.  It is read back as the identity that it was written for if
no part of the identity holds a character that ends the part (`Identity.Spelled`); a part that
was read from a locator never does, except that a host may hold the sign that ends a user.

* `Identity.toList_canonical` — the parts of a canonical text;
* `Locator.parse_canonical` — what is spelled so is read back;
* `Locator.parse_canonical_iff` — of the identities that locators name, exactly those are read
  back whose host cannot be taken for a user.
-/

namespace TokenAgent

namespace Identity

/-! ## The parts of a canonical text -/

/-- The protocol, or the one that goes without saying. -/
def scheme (i : Identity) : String :=
  if i.protocol.isEmpty then defaultProtocol else i.protocol

def userText (i : Identity) : List Char :=
  if i.user.isEmpty then [] else i.user.toList ++ ['@']

def portText (i : Identity) : List Char :=
  match i.port with
  | none => []
  | some port => ':' :: Nat.toDigits 10 port.toNat

def pathText (i : Identity) : List Char :=
  if i.path.isEmpty then [] else '/' :: i.path.toList

theorem toList_canonical (i : Identity) :
    i.canonical.toList = i.scheme.toList ++ ':' :: '/' :: '/' ::
      (i.userText ++ (i.host.toList ++ (i.portText ++ i.pathText))) := by
  have huser : (if i.user.isEmpty then "" else i.user ++ "@").toList = i.userText := by
    rw [userText]
    by_cases h : i.user.isEmpty = true
    · simp [h]
    · simp [h]
  have hpath : (if i.path.isEmpty then "" else "/" ++ i.path).toList = i.pathText := by
    rw [pathText]
    by_cases h : i.path.isEmpty = true
    · simp [h]
    · simp [h]
  rw [canonical, portText]
  cases i.port with
  | none =>
      simp only [String.toList_append, huser, hpath]
      simp [scheme]
  | some port =>
      simp only [String.toList_append, huser, hpath, Nat.toString_eq_repr, Nat.toList_repr]
      simp [scheme]

theorem scheme_ne_nil (i : Identity) : i.scheme.toList ≠ [] := by
  rw [scheme]
  split
  · decide
  · rename_i hprotocol
    simpa using hprotocol

/-- A port is written in digits behind a colon. -/
theorem not_mem_portText {i : Identity} {c : Char} (hcolon : c ≠ ':') (hdigit : c.isDigit = false) :
    c ∉ i.portText := by
  rw [portText]
  cases i.port with
  | none => exact List.not_mem_nil
  | some port =>
      intro hmem
      rcases List.mem_cons.1 hmem with hsame | hmem
      · exact hcolon hsame
      · rw [Nat.isDigit_of_mem_toDigits (by decide) (by decide) hmem] at hdigit
        cases hdigit

theorem pathOf_pathText (i : Identity) : Locator.pathOf i.pathText = i.path.toList := by
  rw [pathText]
  split
  · rename_i hpath
    rw [String.isEmpty_iff.1 hpath]
    rfl
  · rfl

/-- A path is behind a slash, so whatever ends at a slash ends there. -/
theorem stops_pathText {i : Identity} {p : Char → Bool} (h : p '/' = false) :
    Stops p i.pathText := by
  intro c hc
  rw [pathText] at hc
  split at hc
  · cases hc
  · cases hc
    exact h

/-- What follows the host begins with a mark that no host holds, or is nothing. -/
theorem stops_portText (i : Identity) :
    Stops Locator.isHostChar (i.portText ++ i.pathText) := by
  rw [portText]
  cases i.port with
  | none => exact stops_pathText rfl
  | some port =>
      intro c hc
      cases hc
      rfl

/-! ## Reading it back -/

/-- No part holds a character that ends it, and there is a host. -/
structure Spelled (i : Identity) : Prop where
  protocol : ∀ c ∈ i.protocol.toList, Locator.isWordChar c = true
  user : '@' ∉ i.user.toList ∧ '/' ∉ i.user.toList
  host : i.host.toList ≠ []
  host_chars : ∀ c ∈ i.host.toList, Locator.isHostChar c = true
  port : i.port ≠ some 0

/-- The identity with its protocol spelled out, and nothing that a locator does not hold. -/
def located (i : Identity) : Identity :=
  { ofHost i.host with protocol := i.scheme, user := i.user, port := i.port, path := i.path }

theorem canonical_located (i : Identity) : i.located.canonical = i.canonical := by
  have hscheme : i.located.scheme = i.scheme := by
    have hne : i.scheme.isEmpty = false := by
      simpa using i.scheme_ne_nil
    rw [scheme, located, if_neg]
    simpa using hne
  rw [← String.toList_inj, toList_canonical, toList_canonical, hscheme]
  rfl

end Identity

namespace Locator

open Identity

variable {i j : Identity}

theorem splitProtocol_canonical (h : i.Spelled) :
    splitProtocol i.canonical.toList = (i.scheme.toList,
      i.userText ++ (i.host.toList ++ (i.portText ++ i.pathText))) := by
  rw [toList_canonical]
  apply splitProtocol_append i.scheme_ne_nil
  intro c hc
  rw [scheme] at hc
  split at hc
  · have hword : defaultProtocol.toList.all isWordChar = true := by decide
    exact List.all_eq_true.1 hword c hc
  · exact h.protocol c hc

theorem takeWhile_authority (h : i.Spelled) :
    (i.host.toList ++ (i.portText ++ i.pathText)).takeWhile (· ≠ '/')
      = i.host.toList ++ i.portText := by
  rw [← List.append_assoc]
  apply takeWhile_append_of_stops
  · intro c hc
    apply decide_eq_true
    rintro rfl
    rcases List.mem_append.1 hc with hhost | hport
    · exact (isHostChar_iff.1 (h.host_chars _ hhost)).2 rfl
    · exact not_mem_portText (by decide) (by decide) hport
  · exact stops_pathText rfl

theorem splitUser_canonical (h : i.Spelled) (hat : i.user = "" → '@' ∉ i.host.toList) :
    splitUser (i.userText ++ (i.host.toList ++ (i.portText ++ i.pathText)))
      = (i.user.toList, i.host.toList ++ (i.portText ++ i.pathText)) := by
  rw [userText]
  split
  · -- Without a user there is no sign to find: not in the host, and not in the port.
    rename_i huser
    have hempty := String.isEmpty_iff.1 huser
    have hnone : '@' ∉ (i.host.toList ++ (i.portText ++ i.pathText)).takeWhile (· ≠ '/') := by
      rw [takeWhile_authority h, List.mem_append]
      rintro (hhost | hport)
      · exact hat hempty hhost
      · exact not_mem_portText (by decide) (by decide) hport
    rw [List.nil_append, splitUser_of_not_mem hnone, hempty]
    rfl
  · rw [List.append_assoc]
    exact splitUser_append h.user.1 h.user.2 _

theorem splitPort?_canonical (h : i.Spelled) :
    splitPort? (i.portText ++ i.pathText) = some (i.port, i.pathText) := by
  rw [portText]
  cases hport : i.port with
  | none => exact splitPort?_of_stops (stops_pathText rfl)
  | some port =>
      apply splitPort?_append
      · rintro rfl
        exact h.port hport
      · exact stops_pathText rfl

theorem parse_canonical (h : i.Spelled) (hat : i.user = "" → '@' ∉ i.host.toList) :
    parse i.canonical = .ok i.located := by
  have hhost := takeWhile_append_of_stops h.host_chars i.stops_portText
  have hafter := dropWhile_append_of_stops h.host_chars i.stops_portText
  have hport := splitPort?_canonical h
  rw [← hafter] at hport
  have hne := h.host
  rw [← hhost] at hne
  -- Each part ends where the mark of the next one was written.
  have hreads := Reads.intro (splitProtocol_canonical h) (splitUser_canonical h hat) hne hport
  simp only [hhost, pathOf_pathText, String.ofList_toList] at hreads
  exact parse_eq_ok_iff.2 hreads

/-- With no user in front of it, a host that holds the sign is cut at the sign. -/
theorem host_ne_of_parse (h : i.Spelled) (huser : i.user = "") (hat : '@' ∈ i.host.toList)
    (hparse : parse i.canonical = .ok j) : j.host ≠ i.host := by
  rcases List.eq_append_cons_of_mem hat with ⟨front, back, hhost, hfront⟩
  have hchars := h.host_chars
  rw [hhost] at hchars
  have hslash : '/' ∉ front := by
    intro hmem
    exact (isHostChar_iff.1 (hchars '/' (List.mem_append_left _ hmem))).2 rfl
  have hback : ∀ c ∈ back, isHostChar c = true := by
    intro c hmem
    exact hchars c (List.mem_append_right _ (List.mem_cons_of_mem _ hmem))
  have hcut := splitUser_append hfront hslash (back ++ (i.portText ++ i.pathText))
  -- What follows the protocol is cut at the sign, and only what is behind it is left for the host.
  have hreads := parse_eq_ok_iff.1 hparse
  generalize htext : i.canonical.toList = text at hreads
  cases hreads with
  | intro hprotocol huser' _ _ =>
      rw [← htext, splitProtocol_canonical h] at hprotocol
      cases hprotocol
      have hnoUser : i.userText = [] := by
        rw [userText, huser]
        rfl
      rw [hnoUser, List.nil_append, hhost, List.append_assoc, List.cons_append, hcut] at huser'
      cases huser'
      have hshort : back.length < i.host.toList.length := by
        rw [hhost, List.length_append, List.length_cons]
        omega
      intro hsame
      have hlist := congrArg String.toList hsame
      simp only [takeWhile_append_of_stops hback i.stops_portText, ofHost,
        String.toList_ofList] at hlist
      rw [← hlist] at hshort
      exact Nat.lt_irrefl _ hshort

/-- What a locator names is spelled as locators are. -/
theorem spelled_of_parse {s : String} (h : parse s = .ok i) : i.Spelled := by
  have hreads := parse_eq_ok_iff.1 h
  cases hreads with
  | intro hprotocol huser hhost hport =>
      constructor
      · intro c hc
        rw [String.toList_ofList] at hc
        apply isWordChar_of_mem_splitProtocol
        rw [hprotocol]
        exact hc
      · have hpart := congrArg Prod.fst huser
        simp only at hpart
        rw [String.toList_ofList, ← hpart]
        exact not_mem_splitUser _
      · rw [ofHost, String.toList_ofList]
        exact hhost
      · intro c hc
        rw [ofHost, String.toList_ofList] at hc
        exact List.mem_takeWhile_imp hc
      · exact splitPort?_ne_zero hport

/-- The canonical text of what a locator names is a locator of the same place, with the same
canonical text and the same paths, unless there is no user and the host holds the sign that ends
a user: then the text is cut there, and the host is another. -/
theorem parse_canonical_iff {s : String} (h : parse s = .ok i) :
    (i.user = "" → '@' ∉ i.host.toList) ↔
      ∃ j, parse i.canonical = .ok j ∧ j.protocol = i.scheme ∧ j.user = i.user ∧
        j.host = i.host ∧ j.port = i.port ∧ j.path = i.path ∧ j.canonical = i.canonical ∧
        ∀ purpose, DerivationPath.ofIdentity j purpose = DerivationPath.ofIdentity i purpose := by
  have hspelled := spelled_of_parse h
  constructor
  · intro hat
    refine ⟨i.located, parse_canonical hspelled hat, rfl, rfl, rfl, rfl, rfl,
      i.canonical_located, ?_⟩
    intro purpose
    rw [DerivationPath.ofIdentity, i.canonical_located]
    rfl
  · rintro ⟨j, hparse, _, _, hhost, _⟩ huser hat
    exact host_ne_of_parse hspelled huser hat hparse hhost

/-- A host with the sign in it, behind a user. -/
theorem parse_canonical_iff_behind_user :
    parse "a@b@host:22/p" = .ok { ofHost "b@host" with user := "a", port := some 22, path := "p" } ∧
      ∃ j, parse "ssh://a@b@host:22/p" = .ok j ∧ j.host = "b@host" := by
  have hparse : parse "a@b@host:22/p"
      = .ok { ofHost "b@host" with user := "a", port := some 22, path := "p" } := by
    decide +kernel
  have huser : ¬ ("a" = "") := by decide
  rcases (parse_canonical_iff hparse).1 (fun hempty => absurd hempty huser) with
    ⟨j, hj, _, _, hhost, _⟩
  have hcanonical : Identity.canonical
      { ofHost "b@host" with user := "a", port := some 22, path := "p" }
        = "ssh://a@b@host:22/p" := by
    decide +kernel
  rw [hcanonical] at hj
  exact ⟨hparse, j, hj, hhost⟩

/-- Without a user, a host that begins with the sign loses it. -/
theorem parse_canonical_moves :
    ¬ ∀ (s : String) (i : Identity), parse s = .ok i →
      ∃ j, parse i.canonical = .ok j ∧ j.protocol = i.scheme ∧ j.user = i.user ∧
        j.host = i.host ∧ j.port = i.port ∧ j.path = i.path ∧ j.canonical = i.canonical ∧
        ∀ purpose, DerivationPath.ofIdentity j purpose = DerivationPath.ofIdentity i purpose := by
  intro hfixed
  have hparse : parse "@@host" = .ok (ofHost "@host") := by decide +kernel
  have hagain : parse (ofHost "@host").canonical
      = .ok { ofHost "host" with protocol := "ssh" } := by decide +kernel
  rcases hfixed "@@host" (ofHost "@host") hparse with ⟨j, hj, _, _, hhost, _⟩
  rw [hagain] at hj
  cases hj
  exact absurd hhost (by decide)

end Locator

end TokenAgent
