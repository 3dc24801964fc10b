/-
**Which authority a login address selects.**

The selection looks at the first five bytes of the login address, and it can do so only where a
character ends behind them.  Said in characters, the rule is plain: if the address begins with the
five characters of the scheme, in any case of the ASCII letters, the rest of it is the domain; every
other address that is not empty is that of a single sign-on page.  An address that is too short, or
among whose first bytes there is a character of more than one byte, never begins with the scheme,
whatever that character looks like.

Main definitions:

* `AuthorityVariant.SpellsScheme` — the scheme in any letter case.

Main results:

* `AuthorityVariant.domainOf?_eq_some_iff` — a domain is found exactly behind the scheme;
* `AuthorityVariant.select_eq_xmppDomain_iff`, `AuthorityVariant.select_eq_shibboleth_iff` — which
  addresses select which authority;
* `AuthorityVariant.not_spellsScheme_of_short`, `AuthorityVariant.not_spellsScheme_of_wide` — the
  addresses that cannot begin with the scheme;
* `selection_is_exact` — **the selection, address by address**.
-/
import ConferenceAuth.Proofs.Authority.Trust
import ConferenceAuth.Proofs.Text.LetterCase

set_option autoImplicit false

namespace ConferenceAuth

/-! ### Bytes and characters -/

namespace Text

/-- The length of a text in bytes is that of its encoding. -/
theorem byteLength_eq_utf8ByteSize (cs : List Char) :
    byteLength cs = (String.ofList cs).utf8ByteSize := by
  induction cs with
  | nil => rfl
  | cons c cs ih =>
      have hsplit : String.ofList (c :: cs) = String.singleton c ++ String.ofList cs := by
        rw [String.singleton_eq_ofList, ← String.ofList_append, List.singleton_append]
      rw [byteLength_cons, ih, hsplit, String.utf8ByteSize_append, String.utf8ByteSize_singleton]

theorem byteLength_toList (s : String) : byteLength s.toList = s.utf8ByteSize := by
  rw [byteLength_eq_utf8ByteSize, String.ofList_toList]

/-- A text has at least as many bytes as characters. -/
theorem length_le_byteLength (cs : List Char) : cs.length ≤ byteLength cs := by
  induction cs with
  | nil => exact Nat.le_refl 0
  | cons c cs ih =>
      have hpos := c.utf8Size_pos
      rw [List.length_cons, byteLength_cons]
      omega

/-- Characters of one byte each make as many bytes. -/
theorem byteLength_of_narrow {cs : List Char} (h : ∀ c ∈ cs, c.utf8Size = 1) :
    byteLength cs = cs.length := by
  induction cs with
  | nil => rfl
  | cons c cs ih =>
      rw [List.forall_mem_cons] at h
      rw [byteLength_cons, h.1, ih h.2, List.length_cons, Nat.add_comm]

/-- What counts as the same as a character of one byte is one. -/
theorem SameLetter.utf8Size_eq_one {a b : Char} (h : SameLetter a b) (hb : b.utf8Size = 1) :
    a.utf8Size = 1 := by
  rw [Char.utf8Size_eq_one_iff]
  show a.toNat ≤ 127
  cases h with
  | same => exact Char.utf8Size_eq_one_iff.1 hb
  | capital ha =>
      rw [capital_iff] at ha
      omega
  | small hb ha =>
      rw [capital_iff] at hb
      omega

end Text

namespace AuthorityVariant

/-! ### The scheme -/

/-- **The five characters of the scheme**, in any case of the ASCII letters. -/
def SpellsScheme (scheme : String) : Prop :=
  List.Forall₂ Text.SameLetter scheme.toList "XMPP:".toList

namespace SpellsScheme

variable {scheme : String} (h : SpellsScheme scheme)
include h

theorem length_eq : scheme.toList.length = 5 := List.Forall₂.length_eq h

/-- None of its characters takes more than one byte. -/
theorem narrow : ∀ c ∈ scheme.toList, c.utf8Size = 1 := by
  have hnarrow : ∀ c ∈ "XMPP:".toList, c.utf8Size = 1 := by simp [Char.utf8Size]
  intro c hc
  obtain ⟨i, hi, rfl⟩ := List.mem_iff_getElem.1 hc
  have hi' : i < "XMPP:".toList.length := List.Forall₂.length_eq h ▸ hi
  exact (List.Forall₂.get h hi hi').utf8Size_eq_one (hnarrow _ (List.getElem_mem hi'))

theorem byteLength_eq : Text.byteLength scheme.toList = 5 :=
  (Text.byteLength_of_narrow h.narrow).trans h.length_eq

end SpellsScheme

variable {url scheme domain : String} {loginUrl logoutUrl : Option String}

/-- An address of fewer bytes does not begin with the scheme. -/
theorem not_spellsScheme_of_short (hurl : (scheme ++ domain).utf8ByteSize < 5) :
    ¬ SpellsScheme scheme := by
  intro h
  have hscheme := h.byteLength_eq
  rw [Text.byteLength_toList] at hscheme
  rw [String.utf8ByteSize_append] at hurl
  omega

/-- **Nor does an address among whose first bytes there is a character of more than one byte.** -/
theorem not_spellsScheme_of_wide {front back : String} {c : Char}
    (hurl : scheme ++ domain = front ++ String.singleton c ++ back)
    (hfront : front.utf8ByteSize < 5) (hc : 1 < c.utf8Size) : ¬ SpellsScheme scheme := by
  intro h
  -- the character would be one of the five
  have hbytes := Text.length_le_byteLength front.toList
  rw [Text.byteLength_toList] at hbytes
  have hlt : front.toList.length < scheme.toList.length := by
    rw [h.length_eq]
    omega
  have hlist := congrArg String.toList hurl
  simp only [String.toList_append, String.toList_singleton, List.append_assoc,
    List.singleton_append] at hlist
  have hget : scheme.toList[front.toList.length]? = some c := by
    rw [← List.getElem?_append_left hlt, hlist, List.getElem?_append_right (Nat.le_refl _),
      Nat.sub_self]
    rfl
  have hnarrow := h.narrow c (List.mem_of_getElem? hget)
  omega

/-! ### The selection -/

/-- **A domain is found exactly behind the scheme.** -/
theorem domainOf?_eq_some_iff :
    domainOf? url = some domain ↔ ∃ scheme, url = scheme ++ domain ∧ SpellsScheme scheme := by
  constructor
  · intro h
    obtain ⟨scheme, hurl, hscheme⟩ := domainOf?_eq_some h
    exact ⟨scheme, hurl, Text.sameLetters_iff_forall₂.1 hscheme⟩
  · rintro ⟨scheme, rfl, hscheme⟩
    have hsplit : Text.splitAtByte? xmppScheme.utf8ByteSize (scheme ++ domain).toList =
        some (scheme.toList, domain.toList) :=
      Text.splitAtByte?_eq_some_iff.2 ⟨String.toList_append, hscheme.byteLength_eq⟩
    have hsame : Text.sameLetters scheme.toList xmppScheme.toList = true :=
      Text.sameLetters_iff_forall₂.2 hscheme
    rw [domainOf?, hsplit]
    simp only [hsame, if_true, String.ofList_toList]

/-- An XMPP authority is selected by the scheme with the domain behind it. -/
theorem select_eq_xmppDomain_iff :
    select loginUrl logoutUrl = some (.xmppDomain domain) ↔
      ∃ scheme, loginUrl = some (scheme ++ domain) ∧ SpellsScheme scheme := by
  have hof : ∀ url, ofLoginUrl url logoutUrl = .xmppDomain domain ↔ domainOf? url = some domain := by
    intro url
    unfold ofLoginUrl
    cases domainOf? url <;> simp
  simp only [select, Option.map_eq_some_iff, Option.filter_eq_some_iff, decide_eq_true_eq, hof,
    domainOf?_eq_some_iff]
  constructor
  · rintro ⟨url, ⟨hlogin, -⟩, scheme, rfl, hscheme⟩
    exact ⟨scheme, hlogin, hscheme⟩
  · rintro ⟨scheme, hlogin, hscheme⟩
    refine ⟨_, ⟨hlogin, fun hempty => ?_⟩, scheme, rfl, hscheme⟩
    exact not_spellsScheme_of_short (by rw [hempty]; decide) hscheme

/-- **Single sign-on is selected by every other address that is not empty**, and both addresses are
passed on as they are. -/
theorem select_eq_shibboleth_iff {logout : Option String} :
    select loginUrl logoutUrl = some (.shibboleth url logout) ↔
      (loginUrl = some url ∧ logoutUrl = logout) ∧ url ≠ "" ∧
        ∀ scheme domain, url = scheme ++ domain → ¬ SpellsScheme scheme := by
  have hof : ∀ u, ofLoginUrl u logoutUrl = .shibboleth url logout ↔
      (u = url ∧ logoutUrl = logout) ∧ domainOf? u = none := by
    intro u
    unfold ofLoginUrl
    cases domainOf? u <;> simp
  have hnone : ∀ u, domainOf? u = none ↔
      ∀ scheme domain, u = scheme ++ domain → ¬ SpellsScheme scheme := by
    intro u
    simp only [Option.eq_none_iff_forall_ne_some, ne_eq, domainOf?_eq_some_iff, not_exists, not_and]
    exact forall_comm
  simp only [select, Option.map_eq_some_iff, Option.filter_eq_some_iff, decide_eq_true_eq, hof,
    hnone]
  constructor
  · rintro ⟨_, ⟨hlogin, hne⟩, ⟨rfl, hlogout⟩, hscheme⟩
    exact ⟨⟨hlogin, hlogout⟩, hne, hscheme⟩
  · rintro ⟨⟨hlogin, hlogout⟩, hne, hscheme⟩
    exact ⟨url, ⟨hlogin, hne⟩, ⟨rfl, hlogout⟩, hscheme⟩

end AuthorityVariant

/-! ### What is built -/

namespace Authority

/-- **The authority that is built** is of the selected variant, and it has neither been started nor
opened a session. -/
theorem new_of_create? {config : GatewayConfig} {a : Authority} (h : create? config = some a) :
    a.keeper.running = false ∧ a.keeper.sessions.size = 0 ∧ ∀ id, a.session? id = none := by
  obtain ⟨v, -, rfl⟩ := Option.map_eq_some_iff.1 h
  exact ⟨running_ofVariant v config, Table.size_empty, Table.find?_empty⟩

theorem map_variant_create? (config : GatewayConfig) :
    (create? config).map (fun a => (a.kind, a.variant)) =
      (AuthorityVariant.select config.loginUrl config.logoutUrl).map fun v => (v.kind, v) := by
  rw [create?, Option.map_map]
  rfl

end Authority

/-- **The selection, address by address.**  Take any login address and any logout address, or none.

* No authority is selected exactly if there is no login address or an empty one.
* An XMPP authority of a domain is selected exactly if the login address consists of the scheme, in
  any case of the ASCII letters, and this domain, whatever it is.
* Every other login address selects single sign-on, with both addresses as they are; among them are
  the addresses of fewer than five bytes, and those among whose first five bytes a character of
  more than one byte begins.
* Settings with these addresses build an authority of the selected kind and with the same texts, if
  there is one.  It does not run and has no session. -/
theorem selection_is_exact (loginUrl logoutUrl : Option String) :
    (AuthorityVariant.select loginUrl logoutUrl = none ↔ loginUrl = none ∨ loginUrl = some "") ∧
    (∀ domain, AuthorityVariant.select loginUrl logoutUrl = some (.xmppDomain domain) ↔
      ∃ scheme, loginUrl = some (scheme ++ domain) ∧ AuthorityVariant.SpellsScheme scheme) ∧
    ((∀ url logout, AuthorityVariant.select loginUrl logoutUrl = some (.shibboleth url logout) ↔
        (loginUrl = some url ∧ logoutUrl = logout) ∧ url ≠ "" ∧
          ∀ scheme domain, url = scheme ++ domain → ¬ AuthorityVariant.SpellsScheme scheme) ∧
      ∀ url, loginUrl = some url → url ≠ "" →
        (url.utf8ByteSize < 5 ∨ ∃ front c back, url = front ++ String.singleton c ++ back ∧
          front.utf8ByteSize < 5 ∧ 1 < c.utf8Size) →
        AuthorityVariant.select loginUrl logoutUrl = some (.shibboleth url logoutUrl)) ∧
    ∀ config : GatewayConfig, config.loginUrl = loginUrl → config.logoutUrl = logoutUrl →
      (Authority.create? config).map (fun a => (a.kind, a.variant)) =
        (AuthorityVariant.select loginUrl logoutUrl).map (fun v => (v.kind, v)) ∧
      ∀ a, Authority.create? config = some a →
        a.keeper.running = false ∧ a.keeper.sessions.size = 0 ∧ ∀ id, a.session? id = none := by
  refine ⟨AuthorityVariant.select_eq_none_iff, fun _ => AuthorityVariant.select_eq_xmppDomain_iff,
    ⟨fun _ _ => AuthorityVariant.select_eq_shibboleth_iff, fun url hlogin hne hurl => ?_⟩, ?_⟩
  · refine AuthorityVariant.select_eq_shibboleth_iff.2 ⟨⟨hlogin, rfl⟩, hne, ?_⟩
    rintro scheme domain rfl
    obtain hshort | ⟨front, c, back, hwide, hfront, hc⟩ := hurl
    · exact AuthorityVariant.not_spellsScheme_of_short hshort
    · exact AuthorityVariant.not_spellsScheme_of_wide hwide hfront hc
  · rintro config rfl rfl
    exact ⟨Authority.map_variant_create? config, fun _ => Authority.new_of_create?⟩

/-- Behind the scheme in small and capital letters stands a domain beyond ASCII; behind what looks
like the scheme, but begins with a Cyrillic letter, there is none. -/
theorem selection_by_letters_that_look_alike :
    AuthorityVariant.select (some "xMpP:b\u00FCcher.example") none =
        some (.xmppDomain "b\u00FCcher.example") ∧
      AuthorityVariant.select (some "\u0425MPP:example.com") (some "/out") =
        some (.shibboleth "\u0425MPP:example.com" (some "/out")) := by
  obtain ⟨-, hxmpp, -⟩ := selection_is_exact (some "xMpP:b\u00FCcher.example") none
  obtain ⟨-, -, ⟨-, hshibboleth⟩, -⟩ :=
    selection_is_exact (some "\u0425MPP:example.com") (some "/out")
  refine ⟨(hxmpp _).2 ⟨"xMpP:", by decide +kernel, ?_⟩,
    hshibboleth _ rfl (by decide) (.inr ⟨"", '\u0425', "MPP:example.com", by decide +kernel,
      by decide, by decide⟩)⟩
  exact Text.sameLetters_iff_forall₂.1 (by decide +kernel)

end ConferenceAuth
