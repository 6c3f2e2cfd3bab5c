import MailPrefs.Environment
import MailPrefs.Proofs.CommandLine.Run
import MailPrefs.Proofs.Settings
import MailPrefs.Proofs.Text.Ascii
import MailPrefs.Proofs.Text.Basic

namespace MailPrefs

theorem Environment.text?_eq_some_iff (vars : Environment) (name s : String) :
    vars.text? name = some s ↔ vars.bytes? name = some s.toUTF8.toList := by
  have hdecode (bytes : List UInt8) :
      String.fromUTF8? ⟨bytes.toArray⟩ = some s ↔ bytes = s.toUTF8.toList := by
    rw [Json.toUTF8_toList]
    constructor
    · exact fun h => (Text.flatMap_toList_of_fromUTF8? h).symm
    · rintro rfl
      exact Json.fromUTF8?_utf8 s
  rw [text?, Option.bind_eq_some_iff]
  simp only [hdecode, exists_eq_right]

namespace SettingsFile

variable {read : ReadText} {path : String} {d : Toml.Document} {e : SettingsError}

/-- The document in the file at a path; a file that is not there is like an empty one. -/
inductive Holds (read : ReadText) (path : String) : Toml.Document → Prop where
  | absent : read path = .error .notFound → Holds read path []
  | text {s : String} {d : Toml.Document} : read path = .ok s → Toml.parse? s = some d →
      (∀ e ∈ d, SettingsLayer.schema.lookup e.1 = some e.2.kind) → Holds read path d

inductive Refused (read : ReadText) (path : String) : SettingsError → Prop where
  | unreadable {e : ReadFailure} : read path = .error e → e ≠ .notFound →
      Refused read path (.unreadable path e)
  | noDocument {s : String} : read path = .ok s → Toml.parse? s = none →
      Refused read path (.invalidFile path)
  | unknownKey {s k : String} {v : Toml.Value} {d : Toml.Document} : read path = .ok s →
      Toml.parse? s = some d → (k, v) ∈ d → SettingsLayer.schema.lookup k = none →
        Refused read path (.invalidFile path)
  | wrongKind {s k : String} {v : Toml.Value} {d : Toml.Document} {kind : Toml.Kind} :
      read path = .ok s → Toml.parse? s = some d → (k, v) ∈ d →
        SettingsLayer.schema.lookup k = some kind → v.kind ≠ kind →
          Refused read path (.invalidFile path)

theorem refused_or_holds (read : ReadText) (path : String) :
    (∃ e, Refused read path e) ∨ ∃ d, Holds read path d := by
  cases hr : read path with
  | error e =>
    by_cases he : e = .notFound
    · subst he
      exact .inr ⟨[], .absent hr⟩
    · exact .inl ⟨_, .unreadable hr he⟩
  | ok s =>
    cases hd : Toml.parse? s with
    | none => exact .inl ⟨_, .noDocument hr hd⟩
    | some d =>
      by_cases hfits : ∀ e ∈ d, SettingsLayer.schema.lookup e.1 = some e.2.kind
      · exact .inr ⟨d, .text hr hd hfits⟩
      · push Not at hfits
        obtain ⟨⟨k, v⟩, he, hk⟩ := hfits
        cases hschema : SettingsLayer.schema.lookup k with
        | none => exact .inl ⟨_, .unknownKey hr hd he hschema⟩
        | some kind =>
          have hkind : v.kind ≠ kind := fun hv => hk (hschema.trans (congrArg some hv.symm))
          exact .inl ⟨_, .wrongKind hr hd he hschema hkind⟩

theorem Holds.ofFile_eq (h : Holds read path d) :
    SettingsLayer.ofFile read path = .ok (.ofDocument d) := by
  cases h with
  | absent hr => rw [SettingsLayer.ofFile, hr]; rfl
  | text hr hd hfits =>
    have hl := (SettingsLayer.ofText?_eq_some_iff _).mpr ⟨d, hd, hfits, rfl⟩
    rw [SettingsLayer.ofFile, hr]
    simp only [hl, Option.elim_some]

theorem ofFile_of_misfit {s : String} (hr : read path = .ok s)
    (h : ∀ d, Toml.parse? s = some d →
      ∃ e ∈ d, SettingsLayer.schema.lookup e.1 ≠ some e.2.kind) :
    SettingsLayer.ofFile read path = .error (.invalidFile path) := by
  have hnone : SettingsLayer.ofText? s = none := by
    apply Option.eq_none_iff_forall_ne_some.mpr
    intro l hl
    obtain ⟨d, hd, hfits, _⟩ := (SettingsLayer.ofText?_eq_some_iff s).mp hl
    obtain ⟨e, he, hmisfit⟩ := h d hd
    exact hmisfit (hfits e he)
  rw [SettingsLayer.ofFile, hr]
  simp only [hnone, Option.elim_none]

theorem Refused.ofFile_eq (h : Refused read path e) :
    SettingsLayer.ofFile read path = .error e := by
  cases h with
  | @unreadable e hr hne =>
    rw [SettingsLayer.ofFile, hr]
    cases e <;> first | rfl | exact absurd rfl hne
  | noDocument hr hd =>
    apply ofFile_of_misfit hr
    intro d hd'
    rw [hd] at hd'
    cases hd'
  | @unknownKey s k v d hr hd he hk =>
    apply ofFile_of_misfit hr
    intro d' hd'
    cases hd.symm.trans hd'
    refine ⟨(k, v), he, ?_⟩
    rw [hk]
    exact nofun
  | @wrongKind s k v d kind hr hd he hk hkind =>
    apply ofFile_of_misfit hr
    intro d' hd'
    cases hd.symm.trans hd'
    refine ⟨(k, v), he, ?_⟩
    rw [hk]
    exact fun hv => hkind (Option.some.inj hv).symm

end SettingsFile

structure SettingsSources where
  arguments : Arguments
  vars : Environment
  file : Toml.Document

namespace SettingsSources

variable (x : SettingsSources)

def serverUrl : List (Option String) :=
  [x.arguments.serverUrl, x.vars.text? "APP__SERVER_URL", x.file.text? "server_url"]

def catalog : List (Option (List String)) :=
  [x.arguments.catalog.map Text.commaItems, (x.vars.text? "APP__CATALOG").map Text.commaItems,
    x.file.list? "catalog"]

def supportEmail : List (Option String) :=
  [x.arguments.supportEmail, x.vars.text? "APP__SUPPORT_EMAIL", x.file.text? "support_email"]

def translations : List (Option String) :=
  [x.vars.text? "APP__TRANSLATIONS", x.file.text? "translations"]

end SettingsSources

namespace Settings

variable {s s' : Settings} {x x' : SettingsSources}

/-- Each field has the value of the first source that gives it one, or else its default. -/
structure ComesFrom (s : Settings) (x : SettingsSources) : Prop where
  serverUrl : s.serverUrl = (x.serverUrl.findSome? id).getD "http://127.0.0.1:5000"
  catalog : s.catalog = (x.catalog.findSome? id).getD ["osf_general", "osf_help"]
  supportEmail : s.supportEmail = (x.supportEmail.findSome? id).getD "support@osf.io"
  translations : s.translations = x.translations.findSome? id

/-- Settings have the same value in each field about which their sources say the same. -/
structure AgreeWhere (s s' : Settings) (x x' : SettingsSources) : Prop where
  serverUrl : x.serverUrl = x'.serverUrl → s.serverUrl = s'.serverUrl
  catalog : x.catalog = x'.catalog → s.catalog = s'.catalog
  supportEmail : x.supportEmail = x'.supportEmail → s.supportEmail = s'.supportEmail
  translations : x.translations = x'.translations → s.translations = s'.translations

theorem ComesFrom.agreeWhere (h : s.ComesFrom x) (h' : s'.ComesFrom x') : s.AgreeWhere s' x x' where
  serverUrl he := by rw [h.serverUrl, h'.serverUrl, he]
  catalog he := by rw [h.catalog, h'.catalog, he]
  supportEmail he := by rw [h.supportEmail, h'.supportEmail, he]
  translations he := by rw [h.translations, h'.translations, he]

theorem getD_findSome? {α : Type} (flag var entry : Option α) (default : α) :
    ([flag, var, entry].findSome? id).getD default =
      flag.getD (var.getD (entry.getD default)) := by
  cases flag <;> cases var <;> cases entry <;> rfl

theorem comesFrom_layers (a : Arguments) (vars : Environment) (d : Toml.Document) :
    (((({} : Settings).withLayer (.ofDocument d)).withLayer
      (.ofEnvironment vars.text?)).withArguments a).ComesFrom ⟨a, vars, d⟩ where
  serverUrl := (getD_findSome? ..).symm
  catalog := (getD_findSome? ..).symm
  supportEmail := (getD_findSome? ..).symm
  translations := by
    change (vars.text? "APP__TRANSLATIONS").or ((d.text? "translations").or none) =
      [vars.text? "APP__TRANSLATIONS", d.text? "translations"].findSome? id
    cases vars.text? "APP__TRANSLATIONS" <;> cases d.text? "translations" <;> rfl

theorem ComesFrom.catalog_of_flag (h : s.ComesFrom x) (hflag : x.arguments.catalog = some "") :
    s.catalog = [] := by
  rw [h.catalog, SettingsSources.catalog, hflag]
  rfl

theorem ComesFrom.catalog_of_var (h : s.ComesFrom x) (hflag : x.arguments.catalog = none)
    (hvar : x.vars.bytes? "APP__CATALOG" = some []) : s.catalog = [] := by
  have htext : x.vars.text? "APP__CATALOG" = some "" := by
    rw [Environment.text?_eq_some_iff, hvar, Json.toUTF8_toList]
    rfl
  rw [h.catalog, SettingsSources.catalog, hflag, htext]
  rfl

end Settings

namespace Invocation

variable {i : Invocation} {a : Arguments} {d : Toml.Document} {e : SettingsError}

theorem settings_of_refused (h : SettingsFile.Refused i.read a.configPath e) :
    i.settings a = .error (.ofSettings e) := by
  rw [settings, Settings.load, h.ofFile_eq]
  rfl

theorem settings_of_holds {vars : Environment} (hv : i.env = vars.text?)
    (h : SettingsFile.Holds i.read a.configPath d) :
    ∃ s, i.settings a = .ok s ∧ s.ComesFrom ⟨a, vars, d⟩ := by
  refine ⟨_, ?_, Settings.comesFrom_layers a vars d⟩
  rw [settings, Settings.load, h.ofFile_eq, hv]
  rfl

theorem run_of_settings_error {failure : Failure} (h : i.settings a = .error failure)
    (ha : Arguments.parse i.arguments = .ok a) (arrivals : List Arrival) :
    i.run arrivals = { ending := .failure failure } := by
  have hplan : i.plan a = .error failure := by
    rw [plan, h]
    rfl
  rw [run, ha]
  simp only [hplan]

/-- A file that is there and cannot be used ends every run with an error. With all others each field
has the value of the first of argument, variable, entry of the file and default that there is, which
no other field has a part in, and the run goes on with these values. -/
theorem settings_by_field (arguments : List String) (read : ReadText) (vars : Environment)
    (a : Arguments) :
    let i : Invocation := ⟨arguments, read, vars.text?⟩
    ((∃ e, SettingsFile.Refused read a.configPath e) ∨
      ∃ d, SettingsFile.Holds read a.configPath d) ∧
    (∀ e, SettingsFile.Refused read a.configPath e →
      i.settings a = .error (.ofSettings e) ∧
      (Arguments.parse arguments = .ok a → ∀ arrivals,
        i.run arrivals = { ending := .failure (.ofSettings e) })) ∧
    ∀ d, SettingsFile.Holds read a.configPath d →
      ∃ s, i.settings a = .ok s ∧ s.ComesFrom ⟨a, vars, d⟩ ∧
        (a.catalog = some "" → s.catalog = []) ∧
        (a.catalog = none → vars.bytes? "APP__CATALOG" = some [] → s.catalog = []) ∧
        (∀ p, i.plan a = .ok p → p.settings = s ∧ i.Prepares a p ∧
          ∀ arrivals, (p.session arrivals).model.contact = .plain s.supportEmail) ∧
        ∀ (arguments' : List String) (read' : ReadText) (vars' : Environment) (a' : Arguments)
          (d' : Toml.Document) (s' : Settings),
          SettingsFile.Holds read' a'.configPath d' →
            settings ⟨arguments', read', vars'.text?⟩ a' = .ok s' →
              s.AgreeWhere s' ⟨a, vars, d⟩ ⟨a', vars', d'⟩ := by
  intro i
  refine ⟨SettingsFile.refused_or_holds read a.configPath, fun e he => ?_, fun d hd => ?_⟩
  · have hs : i.settings a = .error (.ofSettings e) := settings_of_refused he
    exact ⟨hs, fun ha arrivals => run_of_settings_error hs ha arrivals⟩
  · obtain ⟨s, hs, hfrom⟩ := settings_of_holds (i := i) rfl hd
    refine ⟨s, hs, hfrom, hfrom.catalog_of_flag, hfrom.catalog_of_var, fun p hp => ?_, ?_⟩
    · have hprep := (i.plan_eq_ok_iff a p).mp hp
      have hsame := Except.ok.inj (hprep.settings.symm.trans hs)
      refine ⟨hsame, hprep, fun arrivals => ?_⟩
      rw [← hsame]
      rfl
    · intro arguments' read' vars' a' d' s' hd' hs'
      obtain ⟨_, hs'', hfrom'⟩ :=
        settings_of_holds (i := ⟨arguments', read', vars'.text?⟩) rfl hd'
      cases hs'.symm.trans hs''
      exact hfrom.agreeWhere hfrom'

/-- The server is that of the file, since the variable is no text, there are no lists, since the
variable is empty, and the address is that of the arguments. A misfit in the file ends the run. -/
theorem settings_by_field_mixed :
    let file := "server_url = 'http://127.0.0.1:8000'\ncatalog = [' a ', '']\nsupport_email = 'a@x'"
    let vars : Environment := ⟨fun name =>
      [("APP__SERVER_URL", [0xFF]), ("APP__CATALOG", [])].lookup name⟩
    let i (text : String) : Invocation := ⟨["--submit"], fun _ => .ok text, vars.text?⟩
    let a : Arguments := { supportEmail := some "b@x", submit := true }
    (∃ s p, (i file).settings a = .ok s ∧ s.serverUrl = "http://127.0.0.1:8000" ∧ s.catalog = [] ∧
      s.supportEmail = "b@x" ∧ s.translations = none ∧ (i file).plan a = .ok p ∧ p.settings = s ∧
      ∃ s', (i "support_email = 'a@x'").settings a = .ok s' ∧ s.supportEmail = s'.supportEmail) ∧
    ∀ arrivals, (i "catalog = 'a'").run arrivals =
      { ending := .failure (.ofSettings (.invalidFile "notifications.toml")) } := by
  intro file vars i a
  have hholds (text : String) (d : Toml.Document) (hd : Toml.parse? text = some d)
      (hfits : ∀ e ∈ d, SettingsLayer.schema.lookup e.1 = some e.2.kind) :
      SettingsFile.Holds (i text).read a.configPath d := .text rfl hd hfits
  constructor
  · have hd := hholds file
      [("server_url", .text "http://127.0.0.1:8000"), ("catalog", .list [" a ", ""]),
        ("support_email", .text "a@x")] (by decide +kernel) (by decide)
    have hd' := hholds "support_email = 'a@x'" [("support_email", .text "a@x")]
      (by decide +kernel) (by decide)
    obtain ⟨s, hs, hfrom, _, hempty, hplan, hagree⟩ :=
      (settings_by_field ["--submit"] (i file).read vars a).2.2 _ hd
    obtain ⟨s', hs', _⟩ :=
      (settings_by_field ["--submit"] (i "support_email = 'a@x'").read vars a).2.2 _ hd'
    have hsame := hagree ["--submit"] _ vars a _ s' hd' hs'
    have hurl : s.serverUrl = "http://127.0.0.1:8000" := hfrom.serverUrl.trans (by decide +kernel)
    have hcatalog : s.catalog = [] := hempty rfl rfl
    have htranslations : s.translations = none := hfrom.translations.trans (by decide +kernel)
    have hclient : Client.ofUrl s.serverUrl = .ok ⟨"http://127.0.0.1:8000"⟩ := by
      rw [hurl]
      rfl
    let p : Plan := ⟨a, s, ⟨[], by decide, by decide⟩, ⟨"http://127.0.0.1:8000"⟩, .passthrough, []⟩
    have hp : (i file).plan a = .ok p := by
      refine ((i file).plan_eq_ok_iff a p).mpr ⟨rfl, hs, ?_, hclient, ?_⟩
      · change Catalog.ofKeys s.catalog = _
        rw [hcatalog]
        rfl
      · change (i file).loadTranslations s.translations = _
        rw [htranslations]
        rfl
    have hemail : s.supportEmail = "b@x" := hfrom.supportEmail.trans (by decide +kernel)
    exact ⟨s, p, hs, hurl, hcatalog, hemail, htranslations, hp, (hplan p hp).1, s', hs',
      hsame.supportEmail rfl⟩
  · let a : Arguments := { submit := true }
    have ha : Arguments.parse ["--submit"] = .ok a := by decide +kernel
    have hrefused : SettingsFile.Refused (i "catalog = 'a'").read a.configPath
        (.invalidFile a.configPath) :=
      .wrongKind (k := "catalog") (v := .text "a") rfl (d := [("catalog", .text "a")])
        (by decide +kernel) (by decide) rfl (by decide)
    exact ((settings_by_field ["--submit"] (i "catalog = 'a'").read vars a).2.1 _ hrefused).2 ha

end Invocation

end MailPrefs
