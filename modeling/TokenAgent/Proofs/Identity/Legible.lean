import TokenAgent.Proofs.Identity.Canonical

/-!
# Identities that can be told from their canonical text

Identities need not come from a locator, so their parts may hold any characters.  A canonical
text tells the place that an identity names exactly if no part of the identity holds a character
that would end it early, or would be taken for the end of another one.

* `Identity.Legible` — what the parts have to be like;
* `Identity.SamePlace` — two identities that agree in all that a canonical text says;
* `Identity.parse_canonical_iff_legible` — exactly legible identities are read back, and no two
  places share a canonical text.
-/

namespace TokenAgent

namespace Identity

/-- Every part is read back: none holds a character that ends it, there is a host, and where no
user stands in front of the host it holds no sign that ends a user. -/
structure Legible (i : Identity) : Prop extends Spelled i where
  host_at : i.user = "" → '@' ∉ i.host.toList

/-- Two identities agree in all parts of a locator, a missing protocol being the default. -/
structure SamePlace (i j : Identity) : Prop where
  protocol : i.scheme = j.scheme
  user : i.user = j.user
  host : i.host = j.host
  port : i.port = j.port
  path : i.path = j.path

variable {i j : Identity}

theorem SamePlace.located_eq (h : SamePlace i j) : i.located = j.located := by
  simp only [located, h.protocol, h.user, h.host, h.port, h.path]

theorem SamePlace.of_located (h : i.located = j.located) : SamePlace i j := by
  simp only [located, ofHost, Identity.mk.injEq] at h
  rcases h with ⟨_, hprotocol, huser, hhost, hport, hpath, _⟩
  exact ⟨hprotocol, huser, hhost, hport, hpath⟩

theorem SamePlace.canonical_eq (h : SamePlace i j) : i.canonical = j.canonical :=
  calc
    i.canonical = i.located.canonical := i.canonical_located.symm
    _ = j.located.canonical := by rw [h.located_eq]
    _ = j.canonical := j.canonical_located

theorem Legible.parse_canonical (h : i.Legible) : Locator.parse i.canonical = .ok i.located :=
  Locator.parse_canonical h.toSpelled h.host_at

theorem Legible.samePlace_of_canonical (hi : i.Legible) (hj : j.Legible)
    (h : i.canonical = j.canonical) : SamePlace i j := by
  -- One text is read in one way only.
  have hread : Except.ok (ε := IdentityError) i.located = .ok j.located :=
    calc
      Except.ok i.located = Locator.parse i.canonical := hi.parse_canonical.symm
      _ = Locator.parse j.canonical := by rw [h]
      _ = Except.ok j.located := hj.parse_canonical
  injection hread with hlocated
  exact .of_located hlocated

/-- What is read back has the form of what a locator names, so the identity that it came from had
this form already. -/
theorem legible_of_parse (hparse : Locator.parse i.canonical = .ok j)
    (hprotocol : j.protocol = i.scheme) (huser : j.user = i.user) (hhost : j.host = i.host)
    (hport : j.port = i.port) : i.Legible := by
  have hread := Locator.spelled_of_parse hparse
  have hspelled : i.Spelled := by
    refine ⟨?_, ?_, ?_, ?_, ?_⟩
    · -- An empty protocol holds nothing; any other is the one that was read.
      intro c hc
      by_cases hempty : i.protocol.isEmpty = true
      · rw [String.isEmpty_iff.1 hempty] at hc
        cases hc
      · have hscheme : i.scheme = i.protocol := if_neg hempty
        apply hread.protocol
        rw [hprotocol, hscheme]
        exact hc
    · simpa [huser] using hread.user
    · simpa [hhost] using hread.host
    · simpa [hhost] using hread.host_chars
    · simpa [hport] using hread.port
  refine ⟨hspelled, ?_⟩
  intro hnoUser hat
  exact Locator.host_ne_of_parse hspelled hnoUser hat hparse hhost

/-- Of all identities, exactly the legible ones are read back from their canonical text with
every part as it was, a missing protocol being the default; and two legible identities have the
same canonical text only if they name the same place. -/
theorem parse_canonical_iff_legible :
    (∀ i : Identity,
      (∃ j, Locator.parse i.canonical = .ok j ∧ j.protocol = i.scheme ∧ j.user = i.user ∧
        j.host = i.host ∧ j.port = i.port ∧ j.path = i.path) ↔ i.Legible) ∧
    ∀ i j : Identity, i.Legible → j.Legible → (i.canonical = j.canonical ↔ SamePlace i j) := by
  constructor
  · intro i
    constructor
    · rintro ⟨j, hparse, hprotocol, huser, hhost, hport, _⟩
      exact legible_of_parse hparse hprotocol huser hhost hport
    · intro hlegible
      exact ⟨i.located, hlegible.parse_canonical, rfl, rfl, rfl, rfl, rfl⟩
  · intro i j hi hj
    exact ⟨hi.samePlace_of_canonical hj, SamePlace.canonical_eq⟩

end Identity

end TokenAgent
