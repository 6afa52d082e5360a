import SolutionSweep.Proofs.Path.Walk
import SolutionSweep.Proofs.Text.Marks
import SolutionSweep.Settings.Merge

/-!
# Which settings are valid, and which prevail

Every part of the settings must be as it must be, also where a higher layer hides it. The checks are
made one after another, and the first part that is wrong is named. Each setting then comes from the
highest layer that gives it. The directory of the log that prevails must be one that can be
resolved; this is not checked, and no part is named where it cannot be.

* `Settings.Part`, `Settings.Part.Fits`: what is checked, and what each part must be;
* `Settings.Checked`: what comes of checking some parts, with a law for checks one after another;
* `Settings.Layer`: some settings, on top of others;
* `Settings.Merging`, `Settings.merging_merge`: the ways in which putting them together ends;
* `Settings.merge_layers`: what comes of putting the three layers together;
* `Settings.merge_layers_nullDirectory`: settings of which every part fits, and that are refused.
-/

namespace SolutionSweep

/-! ### Errors -/

/-- The section or field that an error is about. -/
def SettingsError.subject : SettingsError → Text
  | notTable name => name
  | notList field => field
  | blankItem field => field
  | emptyList field => field
  | notBoolean field => field
  | noDirectory field => field

theorem isInfix_quoted {front back : Text} (before behind name : Text)
    (hfront : front = before ++ ['\'']) (hback : back = '\'' :: behind) :
    '\'' :: name ++ ['\''] <:+: front ++ name ++ back := by
  subst hfront hback
  exact ⟨before, behind, by simp⟩

/-- A message names what it is about, between quotation marks. -/
theorem SettingsError.quotes_subject (e : SettingsError) :
    '\'' :: e.subject ++ ['\''] <:+: e.message := by
  have field (name : Text) (rule : String) : '\'' :: name ++ ['\''] <:+: about name rule :=
    (isInfix_quoted "Config field ".toList " must ".toList name (by decide +kernel)
      (by decide +kernel)).trans (List.prefix_append _ rule.toList).isInfix
  cases e with
  | notTable name =>
    exact isInfix_quoted "Config section ".toList " must be a table.".toList name
      (by decide +kernel) (by decide +kernel)
  | notList name => exact field name _
  | blankItem name => exact field name _
  | emptyList name => exact field name _
  | notBoolean name => exact field name _
  | noDirectory name => exact field name _

/-! ### Values -/

namespace SettingValue

/-- The text that a value is. -/
def text? : SettingValue → Option Text
  | text t => some t
  | _ => none

/-- The truth value that a value is. -/
def bool? : SettingValue → Option Bool
  | bool b => some b
  | _ => none

/-- The texts that a value lists, without white space around them. -/
def texts? : SettingValue → Option (List Text)
  | list items => some ((items.filterMap text?).map Text.strip)
  | _ => none

theorem texts?_list (texts : List Text) :
    texts? (list (texts.map text)) = some (texts.map Text.strip) := by
  simp [texts?, List.filterMap_map, Function.comp_def, text?]

end SettingValue

namespace Settings

/-- Texts of which there is one and none is blank. -/
def Filled (texts : List Text) : Prop := texts ≠ [] ∧ ∀ t ∈ texts, Text.isBlank t = false

/-- The kinds of values of fields. -/
inductive Kind
  | texts
  | flag
  | directory

/-- Whether a value is of a kind. A truth value may be left open. -/
def Kind.Accepts : Kind → SettingValue → Prop
  | texts, v => ∃ texts, v = .list (texts.map .text) ∧ Filled texts
  | flag, v => v = .null ∨ ∃ b, v = .bool b
  | directory, v => ∃ t, v = .text t ∧ Text.isBlank t = false

/-! ### Parts of the settings -/

/-- The sections of a settings file. -/
inductive Group
  | manifest
  | removal
  | audit

/-- The name of a section. -/
def Group.name : Group → String
  | manifest => "manifest"
  | removal => "removal"
  | audit => "audit"

/-- The fields under the name of a section, if it is there and a table. -/
def Group.fields (g : Group) (payload : SettingTable) : SettingTable :=
  match payload.lookup g.name.toList with
  | some (.table fields) => fields
  | _ => []

/-- The fields of a settings file. -/
inductive Field
  | extensions
  | versionControlSections
  | pruneFolders
  | auditEnabled
  | auditDirectory

namespace Field

/-- The section of a field. -/
def group : Field → Group
  | extensions => .manifest
  | versionControlSections => .manifest
  | pruneFolders => .removal
  | auditEnabled => .audit
  | auditDirectory => .audit

/-- The key of a field in its section. -/
def key : Field → String
  | extensions => "project_extensions"
  | versionControlSections => "version_control_sections"
  | pruneFolders => "prune_empty_folders"
  | auditEnabled => "enabled"
  | auditDirectory => "data_dir"

/-- The kind of values of a field. -/
def kind : Field → Kind
  | extensions => .texts
  | versionControlSections => .texts
  | pruneFolders => .flag
  | auditEnabled => .flag
  | auditDirectory => .directory

/-- The name of a field. -/
def name (f : Field) : Text := f.group.name.toList ++ '.' :: f.key.toList

/-- The value that a settings file gives a field. -/
def given? (payload : SettingTable) (f : Field) : Option SettingValue :=
  (f.group.fields payload).lookup f.key.toList

end Field

/-- What is checked: the sections and the fields of a settings file, and what overrides give. -/
inductive Part
  | group (g : Group)
  | field (f : Field)
  | override

/-- The name of a part. -/
def Part.name : Part → Text
  | group g => g.name.toList
  | field f => f.name
  | override => "overrides.project_extensions".toList

/-- Whether a part is as it must be, if it is given at all. -/
def Part.Fits (payload : SettingTable) (o : Overrides) : Part → Prop
  | group g => ∀ v, payload.lookup g.name.toList = some v → ∃ fields, v = .table fields
  | field f => ∀ v, f.given? payload = some v → f.kind.Accepts v
  | override => ∀ texts, o.extensions = some texts → Filled texts

variable {payload : SettingTable} {o : Overrides}

/-! ### Checks -/

/-- What comes of checking some parts: a value if all of them are as they must be, and else an error
about one that is not. -/
def Checked {α : Type} (payload : SettingTable) (o : Overrides) (parts : List Part)
    (r : Except SettingsError α) (value : α) : Prop :=
  ((∀ p ∈ parts, p.Fits payload o) ∧ r = .ok value) ∨
    ∃ p ∈ parts, ¬ p.Fits payload o ∧ ∃ e, r = .error e ∧ e.subject = p.name

namespace Checked

variable {α β : Type} {parts parts' : List Part} {r : Except SettingsError α} {a : α} {b : β}

theorem pure (a : α) : Checked payload o [] (Except.ok a) a := .inl ⟨nofun, rfl⟩

/-- A check of one part, which is as it must be if it is not given. -/
theorem of_value {γ : Type} {p : Part} {good : γ → Prop} (x : Option γ)
    (fits : p.Fits payload o ↔ ∀ v, x = some v → good v) (absent : x = none → r = .ok a)
    (given : ∀ v, x = some v →
      good v ∧ r = .ok a ∨ ¬ good v ∧ ∃ e, r = .error e ∧ e.subject = p.name) :
    Checked payload o [p] r a := by
  cases x with
  | none => exact .inl ⟨by simpa using fits.2 nofun, absent rfl⟩
  | some v =>
    rcases given v rfl with ⟨accepted, ok⟩ | ⟨refused, failed⟩
    · refine .inl ⟨?_, ok⟩
      rw [List.forall_mem_singleton, fits]
      rintro v' ⟨⟩
      exact accepted
    · exact .inr ⟨p, List.mem_singleton_self p, fun h => refused (fits.1 h v rfl), failed⟩

theorem map (h : Checked payload o parts r a) (f : α → β) :
    Checked payload o parts (r.map f) (f a) := by
  rcases h with ⟨fits, rfl⟩ | ⟨p, mem, breaks, e, rfl, subject⟩
  · exact .inl ⟨fits, rfl⟩
  · exact .inr ⟨p, mem, breaks, e, rfl, subject⟩

/-- Checks one after another check all of the parts. -/
theorem bind {f : α → Except SettingsError β} (h : Checked payload o parts r a)
    (h' : Checked payload o parts' (f a) b) : Checked payload o (parts ++ parts') (r >>= f) b := by
  rcases h with ⟨fits, rfl⟩ | ⟨p, mem, breaks, e, rfl, subject⟩
  · rcases h' with ⟨fits', ok⟩ | ⟨p, mem, breaks, e, failed, subject⟩
    · exact .inl ⟨fun p mem => (List.mem_append.1 mem).elim (fits p) (fits' p), ok⟩
    · exact .inr ⟨p, List.mem_append_right parts mem, breaks, e, failed, subject⟩
  · exact .inr ⟨p, List.mem_append_left parts' mem, breaks, e, rfl, subject⟩

end Checked

/-! ### The readers -/

/-- The items of a list are texts that are not blank, or else one of them is refused. -/
theorem textItems_cases (name : Text) (items : List SettingValue) :
    (∃ texts : List Text, items = texts.map .text ∧ (∀ t ∈ texts, Text.isBlank t = false) ∧
      textItems name items = .ok (texts.map Text.strip)) ∨
    (∀ texts : List Text, items = texts.map .text → ∃ t ∈ texts, Text.isBlank t = true) ∧
      textItems name items = .error (.blankItem name) := by
  fun_induction textItems name items with
  | case1 => exact .inl ⟨[], rfl, nofun, rfl⟩
  | case2 t rest blank =>
    refine .inr ⟨fun texts eq => ?_, rfl⟩
    obtain ⟨t', texts, rfl, same, -⟩ := List.map_eq_cons_iff.1 eq.symm
    exact ⟨t', List.mem_cons_self, SettingValue.text.inj same ▸ blank⟩
  | case3 t rest filled ih =>
    rcases ih with ⟨texts, rfl, fills, ok⟩ | ⟨breaks, failed⟩
    · refine .inl ⟨t :: texts, rfl, List.forall_mem_cons.2 ⟨by simpa using filled, fills⟩, ?_⟩
      rw [ok]
      rfl
    · refine .inr ⟨fun texts eq => ?_, by rw [failed]; rfl⟩
      obtain ⟨t', texts, rfl, -, eq⟩ := List.map_eq_cons_iff.1 eq.symm
      obtain ⟨t'', mem, blank⟩ := breaks texts eq.symm
      exact ⟨t'', List.mem_cons_of_mem t' mem, blank⟩
  | case4 v rest other =>
    refine .inr ⟨fun texts eq => ?_, rfl⟩
    obtain ⟨t, texts, rfl, same, -⟩ := List.map_eq_cons_iff.1 eq.symm
    exact absurd same.symm (other t)

/-- A value that is no list of texts is refused. -/
theorem textList_cases (name : Text) (v : SettingValue) :
    (∃ texts, v = .list (texts.map .text) ∧ Filled texts ∧
      textList name v = .ok (texts.map Text.strip)) ∨
    ¬ Kind.texts.Accepts v ∧ ∃ e, textList name v = .error e ∧ e.subject = name := by
  unfold textList
  split
  case h_1 items =>
    rcases textItems_cases name items with ⟨texts, rfl, fills, ok⟩ | ⟨breaks, failed⟩
    · rw [ok]
      cases texts with
      | nil =>
        refine .inr ⟨?_, _, rfl, rfl⟩
        rintro ⟨texts, eq, filled, -⟩
        exact filled (List.map_eq_nil_iff.1 (SettingValue.list.inj eq).symm)
      | cons t texts => exact .inl ⟨t :: texts, rfl, ⟨by simp, fills⟩, rfl⟩
    · rw [failed]
      refine .inr ⟨?_, _, rfl, rfl⟩
      rintro ⟨texts, eq, -, filled⟩
      obtain ⟨t, mem, blank⟩ := breaks texts (SettingValue.list.inj eq)
      rw [filled t mem] at blank
      cases blank
  case h_2 noList =>
    refine .inr ⟨?_, _, rfl, rfl⟩
    rintro ⟨texts, rfl, -⟩
    exact noList _ rfl

theorem checked_sectionOf (g : Group) :
    Checked payload o [.group g] (sectionOf payload g.name.toList) (g.fields payload) := by
  refine .of_value (payload.lookup g.name.toList) .rfl (fun absent => ?_) fun v given => ?_
  · rw [sectionOf, Group.fields, absent]
  · rw [sectionOf, Group.fields, given]
    cases v with
    | table fields => exact .inl ⟨⟨fields, rfl⟩, rfl⟩
    | _ =>
      refine .inr ⟨?_, _, rfl, rfl⟩
      rintro ⟨fields, ⟨⟩⟩

variable {f : Field}

theorem checked_listField (kind : f.kind = .texts) (below : List Text) :
    Checked payload o [.field f] (listField (f.group.fields payload) f.group.name f.key below)
      (((f.given? payload).bind SettingValue.texts?).getD below) := by
  refine .of_value (f.given? payload) .rfl (fun absent => ?_) fun v given => ?_
  · rw [listField, ← Field.given?, absent]
    rfl
  · rw [listField, ← Field.given?, given, kind]
    rcases textList_cases f.name v with ⟨texts, rfl, filled, ok⟩ | refused
    · refine .inl ⟨⟨texts, rfl, filled⟩, ok.trans ?_⟩
      rw [Option.bind_some, SettingValue.texts?_list, Option.getD_some]
    · exact .inr refused

theorem checked_boolField (kind : f.kind = .flag) (below : Bool) :
    Checked payload o [.field f] (boolField (f.group.fields payload) f.group.name f.key below)
      (((f.given? payload).bind SettingValue.bool?).getD below) := by
  refine .of_value (f.given? payload) .rfl (fun absent => ?_) fun v given => ?_
  · rw [boolField, ← Field.given?, absent]
    rfl
  · rw [boolField, ← Field.given?, given, kind]
    cases v with
    | null => exact .inl ⟨.inl rfl, rfl⟩
    | bool b => exact .inl ⟨.inr ⟨b, rfl⟩, rfl⟩
    | _ => exact .inr ⟨by simp [Kind.Accepts], _, rfl, rfl⟩

theorem checked_directoryField (kind : f.kind = .directory) (home below : Path) :
    Checked payload o [.field f]
      (directoryField (f.group.fields payload) f.group.name f.key home below)
      ((((f.given? payload).bind SettingValue.text?).map fun t =>
        home.join (Path.ofText t)).getD below) := by
  refine .of_value (f.given? payload) .rfl (fun absent => ?_) fun v given => ?_
  · rw [directoryField, ← Field.given?, absent]
    rfl
  · rw [directoryField, ← Field.given?, given, kind]
    cases v with
    | text t =>
      cases blank : Text.isBlank t with
      | true =>
        exact .inr ⟨by simp [Kind.Accepts, blank], .noDirectory f.name, by simp [blank, Field.name],
          rfl⟩
      | false => exact .inl ⟨⟨t, rfl, blank⟩, by simp [blank, SettingValue.text?]⟩
    | _ => exact .inr ⟨by simp [Kind.Accepts], _, rfl, rfl⟩

theorem checked_overriddenExtensions (below : List Text) :
    Checked payload o [.override] (overriddenExtensions o below)
      ((o.extensions.map (·.map Text.strip)).getD below) := by
  refine .of_value o.extensions .rfl (fun absent => ?_) fun texts given => ?_
  · rw [overriddenExtensions, absent]
    rfl
  · rw [overriddenExtensions, given]
    rcases textList_cases "overrides.project_extensions".toList (.list (texts.map .text)) with
      ⟨texts', eq, filled, ok⟩ | ⟨refused, failed⟩
    · obtain rfl : texts = texts' :=
        List.map_injective_iff.2 (fun _ _ => SettingValue.text.inj) (SettingValue.list.inj eq)
      exact .inl ⟨filled, ok⟩
    · exact .inr ⟨fun filled => refused ⟨texts, rfl, filled⟩, failed⟩

/-! ### Layers -/

/-- Settings of which some may not be given. -/
structure Layer where
  extensions : Option (List Text)
  versionControlSections : Option (List Text)
  pruneFolders : Option Bool
  auditEnabled : Option Bool
  auditDirectory : Option Path

namespace Layer

/-- What a settings file gives, whose paths are seen from the directory of the manifest. -/
def ofPayload (home : Path) (payload : SettingTable) : Layer where
  extensions := (Field.extensions.given? payload).bind SettingValue.texts?
  versionControlSections := (Field.versionControlSections.given? payload).bind SettingValue.texts?
  pruneFolders := (Field.pruneFolders.given? payload).bind SettingValue.bool?
  auditEnabled := (Field.auditEnabled.given? payload).bind SettingValue.bool?
  auditDirectory := ((Field.auditDirectory.given? payload).bind SettingValue.text?).map fun t =>
    home.join (Path.ofText t)

/-- What overrides give. -/
def ofOverrides (o : Overrides) : Layer where
  extensions := o.extensions.map (·.map Text.strip)
  versionControlSections := none
  pruneFolders := o.pruneFolders
  auditEnabled := o.auditEnabled
  auditDirectory := o.auditDirectory

/-- A layer on top of another one. -/
def onTop (top below : Layer) : Layer where
  extensions := top.extensions.or below.extensions
  versionControlSections := top.versionControlSections.or below.versionControlSections
  pruneFolders := top.pruneFolders.or below.pruneFolders
  auditEnabled := top.auditEnabled.or below.auditEnabled
  auditDirectory := top.auditDirectory.or below.auditDirectory

/-- A layer with its path as seen from the working directory. -/
def resolved (cwd : Path) (l : Layer) : Layer :=
  { l with auditDirectory := l.auditDirectory.map (Path.resolve cwd) }

/-- A layer on top of settings. -/
def fill (l : Layer) (base : Settings) : Settings where
  manifestDirectory := base.manifestDirectory
  conventions := ⟨l.extensions.getD base.conventions.extensions,
    l.versionControlSections.getD base.conventions.versionControlSections⟩
  pruneFolders := l.pruneFolders.getD base.pruneFolders
  audit := ⟨l.auditEnabled.getD base.audit.enabled, l.auditDirectory.getD base.audit.directory⟩

theorem fill_onTop (top below : Layer) (base : Settings) :
    (top.onTop below).fill base = top.fill (below.fill base) := by
  simp [onTop, fill, Option.getD_or]

/-- If the settings below are resolved, it is the same to resolve a layer on top of them. -/
theorem fill_resolved {cwd : Path} {base : Settings}
    (settled : Path.resolve cwd base.audit.directory = base.audit.directory) (l : Layer) :
    (l.resolved cwd).fill base =
      { l.fill base with
        audit := ⟨(l.fill base).audit.enabled,
          Path.resolve cwd (l.fill base).audit.directory⟩ } := by
  cases given : l.auditDirectory <;> simp [resolved, fill, given, settled]

end Layer

/-- Three layers: overrides, a settings file and settings that give everything. -/
def stacked (base : Settings) (payload : SettingTable) (o : Overrides) : Settings :=
  ((Layer.ofOverrides o).onTop (.ofPayload base.manifestDirectory payload)).fill base

/-- The three layers with their path as seen from the working directory. -/
def layered (cwd : Path) (base : Settings) (payload : SettingTable) (o : Overrides) : Settings :=
  (((Layer.ofOverrides o).onTop (.ofPayload base.manifestDirectory payload)).resolved cwd).fill base

/-- Settings can be put together as far as their paths go: if the system resolves them, the
directory that prevails for the log has no null character. -/
def Resolvable (how : Resolution) (cwd : Path) (base : Settings) (payload : SettingTable)
    (o : Overrides) : Prop :=
  how = .bySystem →
    ∀ s ∈ (Path.absolute cwd (stacked base payload o).audit.directory).segments, '\x00' ∉ s

/-- The parts of a settings file, in the order in which they are checked. -/
def Part.ofFile : List Part :=
  [.group .manifest, .group .removal, .group .audit, .field .extensions,
    .field .versionControlSections, .field .pruneFolders, .field .auditEnabled,
    .field .auditDirectory]

theorem Part.mem_ofFile (p : Part) : p ∈ Part.ofFile ++ [.override] := by
  cases p with
  | group g => cases g <;> simp [ofFile]
  | field f => cases f <;> simp [ofFile]
  | override => simp [ofFile]

/-- A settings file is checked, and is a layer on top of the settings below. -/
theorem checked_withFile (base : Settings) :
    Checked payload o Part.ofFile (withFile base payload)
      ((Layer.ofPayload base.manifestDirectory payload).fill base) :=
  (checked_sectionOf .manifest).bind <| (checked_sectionOf .removal).bind <|
    (checked_sectionOf .audit).bind <| (checked_listField rfl _).bind <|
    (checked_listField rfl _).bind <| (checked_boolField rfl _).bind <|
    (checked_boolField rfl _).bind <| (checked_directoryField rfl _ _).bind <| .pure _

/-- Overrides are checked, and are a layer on top of the settings file. -/
theorem checked_stacked (base : Settings) :
    Checked payload o (Part.ofFile ++ [.override])
      ((withFile base payload).bind fun s => withOverrides s o) (stacked base payload o) := by
  refine (checked_withFile base).bind ?_
  rw [stacked, Layer.fill_onTop]
  exact (checked_overriddenExtensions _).map _

/-- The ways in which putting the layers together ends: with the layers; with a part that is wrong
and named; or, where every part fits, with a directory that cannot be resolved. -/
inductive Merging (how : Resolution) (cwd : Path) (base : Settings) (payload : SettingTable)
    (o : Overrides) : Except MergeError Settings → Prop
  | layered : (∀ p : Part, p.Fits payload o) → Resolvable how cwd base payload o →
      Merging how cwd base payload o (.ok (layered cwd base payload o))
  | wrong {p : Part} {e : SettingsError} : ¬ p.Fits payload o → e.subject = p.name →
      Merging how cwd base payload o (.error (.wrong e))
  | unresolvable : (∀ p : Part, p.Fits payload o) → ¬ Resolvable how cwd base payload o →
      Merging how cwd base payload o (.error .unresolvable)

variable {how : Resolution} {cwd : Path} {base : Settings}

/-- The layers are resolved if their directory can be. -/
theorem resolved_stacked (settled : Path.resolve cwd base.audit.directory = base.audit.directory)
    (resolvable : Resolvable how cwd base payload o) :
    (stacked base payload o).resolved how cwd = .ok (layered cwd base payload o) := by
  have accepted := how.accepts_iff.2 resolvable
  rw [resolved, Resolution.resolve?, if_pos accepted, layered, Layer.fill_resolved settled]
  rfl

theorem resolved_stacked_eq_error (unresolvable : ¬ Resolvable how cwd base payload o) :
    (stacked base payload o).resolved how cwd = .error .unresolvable := by
  have refused := mt how.accepts_iff.1 unresolvable
  rw [resolved, Resolution.resolve?, if_neg refused]

/-- Putting the layers together ends in one of these ways. -/
theorem merging_merge (settled : Path.resolve cwd base.audit.directory = base.audit.directory) :
    Merging how cwd base payload o (merge how cwd base payload o) := by
  have checked : Checked payload o _ _ _ := checked_stacked base
  rcases checked with ⟨fits, ok⟩ | ⟨p, -, breaks, e, failed, subject⟩
  · replace fits (p : Part) : p.Fits payload o := fits p p.mem_ofFile
    rw [merge, ok]
    by_cases resolvable : Resolvable how cwd base payload o
    · simp only [resolved_stacked settled resolvable]
      exact .layered fits resolvable
    · simp only [resolved_stacked_eq_error resolvable]
      exact .unresolvable fits resolvable
  · rw [merge, failed]
    exact .wrong breaks subject

/-! ### What the merged settings are like -/

/-- Texts of which there is one and all are without white space around them. -/
def Tidy (texts : List Text) : Prop := texts ≠ [] ∧ ∀ t ∈ texts, t ≠ [] ∧ Text.strip t = t

theorem Filled.tidy {texts : List Text} (h : Filled texts) : Tidy (texts.map Text.strip) := by
  refine ⟨by simpa using h.1, List.forall_mem_map.2 fun t mem => ⟨fun blank => ?_, ?_⟩⟩
  · have := h.2 t mem
    rw [Text.strip_eq_nil_iff.1 blank] at this
    cases this
  · exact Text.trim_trim _ t

/-- What a settings file gives a list field is tidy. -/
theorem tidy_of_given {f : Field} {texts : List Text} (kind : f.kind = .texts)
    (fits : (Part.field f).Fits payload o)
    (given : (f.given? payload).bind SettingValue.texts? = some texts) : Tidy texts := by
  obtain ⟨v, here, read⟩ := Option.bind_eq_some_iff.1 given
  obtain ⟨texts', rfl, filled⟩ : Kind.texts.Accepts v := kind ▸ fits v here
  rw [SettingValue.texts?_list] at read
  exact Option.some.inj read ▸ filled.tidy

theorem getD_of_forall {α : Type} {good : α → Prop} {x : Option α} {below : α}
    (given : ∀ a, x = some a → good a) (absent : good below) : good (x.getD below) := by
  cases x with
  | none => exact absent
  | some a => exact given a rfl

/-- The lists of the standard settings are tidy. -/
theorem tidy_standard : Tidy Conventions.standard.extensions ∧
    Tidy Conventions.standard.versionControlSections := by
  unfold Tidy
  decide +kernel

theorem isNormal_standard {cwd : Path} (rooted : cwd.root ≠ .relative) (directory : Path) :
    (standard cwd directory).audit.directory.IsNormal := by
  have home := Path.isNormal_resolve rooted directory
  refine ⟨home.rooted, fun mem => ?_⟩
  rcases List.mem_append.1 mem with mem | mem
  · exact home.settled mem
  · revert mem
    decide +kernel

theorem isProper_standard {cwd directory : Path} (hcwd : cwd.IsProper) (h : directory.IsProper) :
    (standard cwd directory).audit.directory.IsProper := by
  intro s mem
  rcases List.mem_append.1 mem with mem | mem
  · exact hcwd.resolve h s mem
  · obtain rfl := List.mem_singleton.1 mem
    decide +kernel

/-- What the layers give is tidy and normal if every part of them fits. -/
theorem prevails_layered {cwd : Path} (rooted : cwd.root ≠ .relative) (directory : Path)
    (fits : ∀ p : Part, p.Fits payload o) :
    let s := layered cwd (standard cwd directory) payload o
    Tidy s.conventions.extensions ∧ Tidy s.conventions.versionControlSections ∧
      s.audit.directory.IsNormal ∧
      (cwd.IsProper → directory.IsProper → (∀ p, o.auditDirectory = some p → p.IsProper) →
        s.audit.directory.IsProper) := by
  refine ⟨getD_of_forall (fun texts given => ?_) tidy_standard.1,
    getD_of_forall (fun texts given => tidy_of_given rfl (fits _) given) tidy_standard.2,
    getD_of_forall (fun p given => ?_) (isNormal_standard rooted directory),
    fun hcwd h overrides =>
      getD_of_forall (fun p given => ?_) (isProper_standard hcwd h)⟩
  · rcases Option.or_eq_some_iff.1 given with given | ⟨-, given⟩
    · obtain ⟨texts', here, rfl⟩ := Option.map_eq_some_iff.1 given
      exact (fits .override texts' here).tidy
    · exact tidy_of_given rfl (fits _) given
  · obtain ⟨p', -, rfl⟩ := Option.map_eq_some_iff.1 given
    exact Path.isNormal_resolve rooted p'
  · obtain ⟨p', given', rfl⟩ := Option.map_eq_some_iff.1 given
    refine hcwd.resolve ?_
    rcases Option.or_eq_some_iff.1 given' with given' | ⟨-, given'⟩
    · exact overrides p' given'
    · obtain ⟨t, -, rfl⟩ := Option.map_eq_some_iff.1 given'
      exact (hcwd.resolve h).join (Path.isProper_ofText t)

/-- **Which settings are valid, and which prevail.** The three layers are put together exactly if
each section and each field of the settings file and the overrides are as they must be, whatever
hides them, and the directory that prevails for the log can be resolved. If a part is not as it must
be, the message names one that is not; if only the directory cannot be resolved, nothing is named.
Each setting is then that of the highest layer that gives it. Lists are not empty and their items
are stripped and not empty, and the directory of the audit log is absolute and normal. -/
theorem merge_layers {cwd : Path} (rooted : cwd.root ≠ .relative) (how : Resolution)
    (directory : Path) (payload : SettingTable) (o : Overrides) :
    let base := standard cwd directory
    let merged := merge how cwd base payload o
    ((∃ s, merged = .ok s) ↔
      (∀ p : Part, p.Fits payload o) ∧ Resolvable how cwd base payload o) ∧
    (∀ e, merged = .error e → (∃ p : Part, ¬ p.Fits payload o ∧
        '\'' :: p.name ++ ['\''] <:+: e.message) ∨
      e = .unresolvable ∧ (∀ p : Part, p.Fits payload o) ∧
        ¬ Resolvable how cwd base payload o) ∧
    ∀ s, merged = .ok s →
      s = layered cwd base payload o ∧ Tidy s.conventions.extensions ∧
      Tidy s.conventions.versionControlSections ∧ s.audit.directory.IsNormal ∧
      (cwd.IsProper → directory.IsProper → (∀ p, o.auditDirectory = some p → p.IsProper) →
        s.audit.directory.IsProper) := by
  intro base merged
  have normal : base.audit.directory.IsNormal := isNormal_standard rooted directory
  have merging : Merging how cwd base payload o merged := merging_merge (normal.resolve_eq cwd)
  clear_value merged
  cases merging with
  | layered fits resolvable =>
    refine ⟨⟨fun _ => ⟨fits, resolvable⟩, fun _ => ⟨_, rfl⟩⟩, nofun, fun s ok => ?_⟩
    cases ok
    exact ⟨rfl, prevails_layered rooted directory fits⟩
  | @wrong p e breaks subject =>
    refine ⟨⟨?_, fun both => absurd (both.1 p) breaks⟩, fun e failed => ?_, nofun⟩
    · rintro ⟨s, ⟨⟩⟩
    · cases failed
      exact .inl ⟨p, breaks, subject ▸ e.quotes_subject⟩
  | unresolvable fits unresolvable =>
    refine ⟨⟨?_, fun both => absurd both.2 unresolvable⟩, fun e failed => ?_, nofun⟩
    · rintro ⟨s, ⟨⟩⟩
    · cases failed
      exact .inr ⟨rfl, fits, unresolvable⟩

/-- A settings file with one field for each section that may be hidden. -/
def samplePayload (directory : String) : SettingTable :=
  [("manifest".toList, .table [("project_extensions".toList, .list [.text " .x ".toList])]),
    ("removal".toList, .table [("prune_empty_folders".toList, .null)]),
    ("audit".toList, .table [("enabled".toList, .bool false),
      ("data_dir".toList, .text directory.toList)])]

/-- Overrides that hide what the sample says of the audit log. -/
def sampleOverrides : Overrides := ⟨some (Path.ofText "logs".toList), none, none, some true⟩

/-- The fields come from all three layers. A directory that is hidden must not be blank, but may be
one that cannot be resolved. -/
theorem merge_layers_sample :
    let cwd := Path.ofText "/w".toList
    let base := standard cwd (Path.ofText "sln".toList)
    cwd.root ≠ .relative ∧
    merge .bySystem cwd base (samplePayload "a\x00b") sampleOverrides =
      .ok ⟨Path.ofText "/w/sln".toList,
        ⟨[".x".toList], Conventions.standard.versionControlSections⟩, true,
        ⟨true, Path.ofText "/w/logs".toList⟩⟩ ∧
    ¬ ∃ s, merge .bySystem cwd base (samplePayload " ") sampleOverrides = .ok s := by
  intro cwd base
  have rooted : cwd.root ≠ .relative := by decide +kernel
  have laws := merge_layers rooted .bySystem (Path.ofText "sln".toList)
  refine ⟨rooted, ?_, ?_⟩
  · have returns : (merge .bySystem cwd base (samplePayload "a\x00b")
        sampleOverrides).toOption.isSome = true := by
      decide +kernel
    cases run : merge .bySystem cwd base (samplePayload "a\x00b") sampleOverrides with
    | error e =>
      rw [run] at returns
      cases returns
    | ok s =>
      obtain ⟨rfl, -⟩ := (laws _ _).2.2 s run
      refine congrArg _ ?_
      decide +kernel
  · rw [(laws _ _).1]
    rintro ⟨fits, -⟩
    obtain ⟨t, same, filled⟩ := fits (.field .auditDirectory) (.text " ".toList) rfl
    cases same
    revert filled
    decide +kernel

/-- A settings file with a directory that has a null character. -/
def nullPayload : SettingTable :=
  [("audit".toList, .table [("data_dir".toList, .text "a\x00b".toList)])]

/-- Every part of these settings is as it must be, and they are refused with a message that names
none of them. -/
theorem merge_layers_nullDirectory :
    let cwd := Path.ofText "/w".toList
    (∀ p : Part, p.Fits nullPayload .none) ∧
      merge .bySystem cwd (standard cwd (Path.ofText "sln".toList)) nullPayload .none =
        .error .unresolvable ∧
      ∀ p : Part, ¬ p.name <:+: MergeError.unresolvable.message := by
  refine ⟨fun p => ?_, by decide +kernel, fun p => ?_⟩
  · cases p with
    | group g =>
      cases g with
      | audit =>
        rintro _ ⟨⟩
        exact ⟨_, rfl⟩
      | manifest | removal => nofun
    | field f =>
      cases f with
      | auditDirectory =>
        rintro _ ⟨⟩
        exact ⟨_, rfl, by decide +kernel⟩
      | extensions | versionControlSections | pruneFolders | auditEnabled => nofun
    | override => nofun
  · cases p with
    | group g => cases g <;> decide +kernel
    | field f => cases f <;> decide +kernel
    | override => decide +kernel

end Settings

end SolutionSweep
