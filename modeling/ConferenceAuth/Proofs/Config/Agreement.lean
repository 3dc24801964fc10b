/-
**The environment and the table of properties say the same.**

A host gives the gateway its settings either as properties or as variables.  The name of a variable
forgets much of the name of its property: letters lose their case, and dots, dashes and everything
else become underscores.  The nine names that are looked up stay apart all the same, so that a
variable is read for one property only, whatever else the environment holds.

Main definitions:

* `Property.envName` — the variable of a property;
* `Property.rows` — the rows in which a table keeps the texts of the properties;
* `Settings.Holds` — a table holds given texts under given names, among unrelated rows.

Main results:

* `Property.envName_injective` — no two properties share a variable;
* `Settings.Holds.get?_eq` — a look-up finds the text of its own property;
* `resolve_properties_eq_environment` — **both kinds of source give the same settings**, those of
  the nine texts alone.
-/
import ConferenceAuth.Config.Gateway
import ConferenceAuth.Config.Http
import Mathlib.Data.List.Nodup

set_option autoImplicit false

namespace ConferenceAuth

/-! ### The nine names -/

namespace Property

theorem name_injective : Function.Injective Property.name := fun _ _ => name_inj

/-- The environment variable of a property. -/
def envName (p : Property) : String := variableName p.name

/-- **No two properties share a variable**, although the names of variables are coarser. -/
theorem envName_injective : Function.Injective Property.envName := by
  have hnodup : (all.map Property.envName).Nodup := by decide +kernel
  intro p q h
  exact List.inj_on_of_nodup_map hnodup (mem_all p) (mem_all q) h

-- Other names do collide: the map is injective on the nine only.
example : variableName "org.jitsi.jicofo.auth.url" = loginUrl.envName := by decide +kernel

/-- The rows in which a table keeps the texts of the properties, each under its own key. -/
def rows (key : Property → String) (texts : Property → Option String) : Settings :=
  all.filterMap fun p => (texts p).map fun text => (key p, text)

theorem mem_rows {key : Property → String} {texts : Property → Option String}
    {row : String × String} :
    row ∈ rows key texts ↔ ∃ p, row.1 = key p ∧ texts p = some row.2 := by
  obtain ⟨name, text⟩ := row
  simp only [rows, List.mem_filterMap, mem_all, true_and, Option.map_eq_some_iff, Prod.mk.injEq]
  constructor
  · rintro ⟨p, t, ht, rfl, rfl⟩
    exact ⟨p, rfl, ht⟩
  · rintro ⟨p, rfl, ht⟩
    exact ⟨p, text, ht, rfl, rfl⟩

/-- Keys that are apart give rows with distinct names. -/
theorem nodup_rows {key : Property → String} (hkey : Function.Injective key)
    (texts : Property → Option String) : ((rows key texts).map Prod.fst).Nodup := by
  have hsub : ∀ ps : List Property, ((ps.filterMap fun p => (texts p).map fun text =>
      (key p, text)).map Prod.fst).Sublist (ps.map key) := by
    intro ps
    induction ps with
    | nil => exact List.Sublist.slnil
    | cons p ps ih =>
        cases h : texts p with
        | none => simpa [List.filterMap_cons, h] using ih.cons (key p)
        | some text => simpa [List.filterMap_cons, h] using ih
  exact (hsub all).nodup ((List.nodup_map_iff hkey).2 (by decide))

end Property

/-! ### Tables that hold the nine texts -/

namespace Settings

/-- In a table without repeated names, the text of a name is the text of its row. -/
theorem get?_eq_some_iff {s : Settings} (once : (s.map Prod.fst).Nodup) {name text : String} :
    s.get? name = some text ↔ (name, text) ∈ s := by
  rw [get?, List.lookup_eq_some_iff]
  constructor
  · rintro ⟨before, after, rfl, -⟩
    exact List.mem_append_right before List.mem_cons_self
  · intro h
    obtain ⟨before, after, rfl⟩ := List.append_of_mem h
    refine ⟨before, after, rfl, fun row hrow => bne_iff_ne.2 fun hname => ?_⟩
    -- the name of the row would stand twice
    rw [List.map_append, List.map_cons, List.nodup_append] at once
    exact once.2.2 row.1 (List.mem_map_of_mem hrow) name List.mem_cons_self hname.symm

/-- **A table holds given texts under given keys**, in any order and among other rows, whose names
are no keys. -/
structure Holds (s : Settings) (key : Property → String) (texts : Property → Option String)
    (others : Settings) : Prop where
  rows : s.Perm (Property.rows key texts ++ others)
  /-- The other names stand once each. -/
  once : (others.map Prod.fst).Nodup
  apart : ∀ row ∈ others, ∀ p, row.1 ≠ key p

variable {s others : Settings} {key : Property → String} {texts : Property → Option String}

/-- The nine texts alone. -/
theorem holds_rows (key : Property → String) (texts : Property → Option String) :
    Holds (Property.rows key texts) key texts [] where
  rows := by rw [List.append_nil]
  once := List.nodup_nil
  apart := fun _ hrow => nomatch hrow

namespace Holds

theorem nodup (h : s.Holds key texts others) (hkey : Function.Injective key) :
    (s.map Prod.fst).Nodup := by
  rw [(h.rows.map Prod.fst).nodup_iff, List.map_append, List.nodup_append]
  refine ⟨Property.nodup_rows hkey texts, h.once, ?_⟩
  intro a ha b hb
  obtain ⟨row, hrow, rfl⟩ := List.mem_map.1 ha
  obtain ⟨other, hother, rfl⟩ := List.mem_map.1 hb
  obtain ⟨p, hp, -⟩ := Property.mem_rows.1 hrow
  exact fun heq => h.apart other hother p (heq ▸ hp)

/-- **A look-up finds the text of its own property**: nothing else in the table stands before it. -/
theorem get?_eq (h : s.Holds key texts others) (hkey : Function.Injective key) (p : Property) :
    s.get? (key p) = texts p := by
  ext text
  rw [get?_eq_some_iff (h.nodup hkey), h.rows.mem_iff, List.mem_append, Property.mem_rows]
  constructor
  · rintro (⟨q, hq, htext⟩ | hother)
    · rwa [hkey hq]
    · exact absurd rfl (h.apart _ hother p)
  · exact fun htext => .inl ⟨p, rfl, htext⟩

end Holds

end Settings

/-! ### The settings that a source gives -/

namespace ConfigSource

variable {a b : ConfigSource} {name : String} (h : a.text? name = b.text? name)
include h

theorem nonEmpty?_congr : a.nonEmpty? name = b.nonEmpty? name := by
  rw [nonEmpty?, nonEmpty?, h]

theorem isTrue_congr : a.isTrue name = b.isTrue name := by
  rw [isTrue, isTrue, bool?, bool?, h]

theorem int?_congr : a.int? name = b.int? name := by
  rw [int?, int?, h]

end ConfigSource

/-- The gateway's settings depend on the nine texts only. -/
theorem GatewayConfig.resolve_congr {a b : ConfigSource}
    (h : ∀ p : Property, a.text? p.name = b.text? p.name) : resolve a = resolve b := by
  simp only [resolve, fun p => ConfigSource.nonEmpty?_congr (h p),
    fun p => ConfigSource.isTrue_congr (h p), fun p => ConfigSource.int?_congr (h p)]

/-- The server's settings depend on the nine texts only. -/
theorem HttpConfig.resolve_congr {a b : ConfigSource}
    (h : ∀ p : Property, a.text? p.name = b.text? p.name) : resolve a = resolve b := by
  simp only [resolve, fun p => ConfigSource.nonEmpty?_congr (h p),
    fun p => ConfigSource.int?_congr (h p)]

/-- **Both kinds of source give the same settings**: a table of properties and an environment that
hold the same nine texts are read alike, text by text and in all the settings made of them, and
whatever else they hold makes no difference to what the nine texts alone give. -/
theorem resolve_properties_eq_environment (texts : Property → Option String)
    {s vars others otherVars : Settings} (hs : s.Holds Property.name texts others)
    (hvars : vars.Holds Property.envName texts otherVars) :
    (∀ p : Property, (ConfigSource.ofProperties s).text? p.name = texts p ∧
      (ConfigSource.ofEnvironment vars).text? p.name = texts p) ∧
    (GatewayConfig.resolve (.ofProperties s) = GatewayConfig.resolve (.ofEnvironment vars) ∧
      HttpConfig.resolve (.ofProperties s) = HttpConfig.resolve (.ofEnvironment vars)) ∧
    (GatewayConfig.resolve (.ofEnvironment vars) =
        GatewayConfig.resolve (.ofProperties (Property.rows Property.name texts)) ∧
      HttpConfig.resolve (.ofEnvironment vars) =
        HttpConfig.resolve (.ofProperties (Property.rows Property.name texts))) := by
  have hprops : ∀ p : Property, (ConfigSource.ofProperties s).text? p.name = texts p :=
    hs.get?_eq Property.name_injective
  have henv : ∀ p : Property, (ConfigSource.ofEnvironment vars).text? p.name = texts p :=
    hvars.get?_eq Property.envName_injective
  have halone : ∀ p : Property,
      (ConfigSource.ofProperties (Property.rows Property.name texts)).text? p.name = texts p :=
    (Settings.holds_rows Property.name texts).get?_eq Property.name_injective
  have hagree : ∀ p : Property, (ConfigSource.ofProperties s).text? p.name =
      (ConfigSource.ofEnvironment vars).text? p.name := fun p => (hprops p).trans (henv p).symm
  have hrest : ∀ p : Property, (ConfigSource.ofEnvironment vars).text? p.name =
      (ConfigSource.ofProperties (Property.rows Property.name texts)).text? p.name :=
    fun p => (henv p).trans (halone p).symm
  exact ⟨fun p => ⟨hprops p, henv p⟩,
    ⟨GatewayConfig.resolve_congr hagree, HttpConfig.resolve_congr hagree⟩,
    GatewayConfig.resolve_congr hrest, HttpConfig.resolve_congr hrest⟩

/-- A login and a logout address among unrelated rows: the variable of the one ends like that of the
other, and names of other spaces and spellings change nothing. -/
theorem resolve_properties_eq_environment_addresses :
    GatewayConfig.resolve (.ofProperties [("URL", "elsewhere"),
        ("org.jitsi.jicofo.auth.LOGOUT_URL", "/out"), ("org.jitsi.jicofo.auth.url", "lower"),
        ("org.jitsi.jicofo.auth.URL", "shibboleth:default")]) =
      GatewayConfig.resolve (.ofEnvironment [("ORG_JITSI_JICOFO_AUTH_URL", "shibboleth:default"),
        ("LOGOUT_URL", "elsewhere"), ("ORG_JITSI_JICOFO_AUTH_LOGOUT_URL", "/out")]) :=
  (resolve_properties_eq_environment
    (fun p => if p = .loginUrl then some "shibboleth:default"
      else if p = .logoutUrl then some "/out" else none)
    { rows := by decide +kernel
      once := by decide +kernel
      apart := fun row hrow p =>
        (by decide +kernel : ∀ row ∈ [("URL", "elsewhere"), ("org.jitsi.jicofo.auth.url", "lower")],
          ∀ p ∈ Property.all, row.1 ≠ p.name) row hrow p p.mem_all }
    { rows := by decide +kernel
      once := by decide +kernel
      apart := fun row hrow p =>
        (by decide +kernel : ∀ row ∈ [("LOGOUT_URL", "elsewhere")],
          ∀ p ∈ Property.all, row.1 ≠ p.envName) row hrow p p.mem_all }).2.1.1

end ConferenceAuth
