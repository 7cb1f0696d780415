/-
Exit codes.

A command that has a configuration and facts to work on is meant to end with code 0, and one
whose settings, assignments or facts are invalid with code 1 and an error in the record
(`Finished.IsOrderly`).  `isOrderlyIf_inspect_and_synthesize` says when the commands do, on every
host that reads tags soundly: their result, if there is one, is always in order, and there is one
exactly under a condition (`HasEnd`).

Two parts of the condition are about what the user wrote.  A settings file in which `tool` or
`tool.monofuzz` is no table is an error that is not told about.  Valid settings may still keep a run
from a result: by a scan window that does not fit a machine word, or by a cap that has to be stated
and cannot be written.  The other parts are limits of the host: the depth of its stack, and what
its terminal can print.
-/
import FuzzSynth.Proofs.Command.Shown

namespace FuzzSynth

/-! ## Settings -/

namespace Config

variable {markup : Markup} {validator : Validator} {tree : FileTree} {folder : Location}
  {members : List (String × Json)}

/-- The members of the nearest settings file; one that is not TOML has none. -/
def membersAt? (tree : FileTree) (folder : Location) : Option (List (String × Json)) :=
  (tree.nearest settingsFile folder).bind fun found => (Toml.read found.2).toOption

/-- Whether `tool` and `tool.monofuzz` are tables in the nearest settings file, as far as they are
there. -/
def HasTables (tree : FileTree) (folder : Location) : Prop :=
  ∀ members ∈ membersAt? tree folder, ∃ tool settings,
    tableAt "tool" members = .ok tool ∧ tableAt "monofuzz" tool = .ok settings

theorem exists_settingsOf_iff (members : List (String × Json)) :
    (∃ settings, settingsOf members = .ok settings) ↔ ∃ tool settings,
      tableAt "tool" members = .ok tool ∧ tableAt "monofuzz" tool = .ok settings := by
  unfold settingsOf
  cases htool : tableAt "tool" members with
  | error value => simp
  | ok tool => cases hsettings : tableAt "monofuzz" tool <;> simp [Except.mapError, hsettings]

instance : Decidable (HasTables tree folder) :=
  decidable_of_iff (∀ members ∈ membersAt? tree folder, (settingsOf members).toOption.isSome = true)
    (forall₂_congr fun members _ => by
      rw [← exists_settingsOf_iff]
      cases settingsOf members <;> simp [Except.toOption])

theorem mapError_eq_error_iff {ε δ α : Type} {x : Except ε α} {f : ε → δ} {e : δ} :
    x.mapError f = .error e ↔ ∃ cause, x = .error cause ∧ f cause = e := by
  cases x <;> simp [Except.mapError]

/-- The user is not told about settings that are in no table. -/
theorem notice?_eq_none_of_settingsOf {e : SettingsError} (h : settingsOf members = .error e) :
    e.notice? = none := by
  unfold settingsOf at h
  split at h
  · obtain rfl := Except.error.inj h
    rfl
  · obtain ⟨value, -, rfl⟩ := mapError_eq_error_iff.mp h
    rfl

/-- The user is told about settings that are in a table but are not those of a configuration. -/
theorem exists_notice?_of_ofSettings {settings overrides : List (String × Json)}
    {e : SettingsError} (h : ofSettings validator settings overrides = .error e) :
    ∃ message, e.notice? = some message := by
  obtain ⟨complaint, -, rfl⟩ := mapError_eq_error_iff.mp h
  exact ⟨_, rfl⟩

variable (markup validator) (base : Location) (overrides : List (String × Json))

theorem load_of_membersAt?_eq_some (h : membersAt? tree folder = some members) :
    (load markup validator tree base folder overrides).config =
      (settingsOf members).bind fun settings => ofSettings validator settings overrides := by
  obtain ⟨⟨loc, text⟩, hnearest, hmembers⟩ := Option.bind_eq_some_iff.mp h
  cases hread : Toml.read text with
  | error fault =>
      rw [hread] at hmembers
      cases hmembers
  | ok document =>
      rw [hread] at hmembers
      obtain rfl := Option.some.inj hmembers
      simp only [load, hnearest, hread]

/-- Without a settings file that is TOML, the user is told about whatever is wrong. -/
theorem exists_notice?_of_membersAt?_eq_none (h : membersAt? tree folder = none)
    {e : SettingsError} (he : (load markup validator tree base folder overrides).config = .error e) :
    ∃ message, e.notice? = some message := by
  unfold load at he
  split at he
  · exact exists_notice?_of_ofSettings he
  · next loc text hnearest =>
      split at he
      · obtain rfl := Except.error.inj he
        exact ⟨_, rfl⟩
      · exact exists_notice?_of_ofSettings he
      · next hread =>
          rw [membersAt?, hnearest, Option.bind_some, hread] at h
          cases h

/-- The settings are in a table exactly if the user is told about whatever keeps the configuration
from being had. -/
theorem hasTables_iff_told : HasTables tree folder ↔
    ∀ e, (load markup validator tree base folder overrides).config = .error e →
      ∃ message, e.notice? = some message := by
  cases hmembers : membersAt? tree folder with
  | none =>
      refine iff_of_true ?_ fun e he => exists_notice?_of_membersAt?_eq_none _ _ _ _ hmembers he
      intro members h
      rw [hmembers] at h
      cases h
  | some members =>
      have htables : HasTables tree folder ↔ ∃ settings, settingsOf members = .ok settings := by
        rw [exists_settingsOf_iff, HasTables, hmembers]
        exact ⟨fun h => h members rfl, fun h _ hmem => Option.some.inj hmem ▸ h⟩
      rw [htables, load_of_membersAt?_eq_some markup validator base overrides hmembers]
      cases hsettings : settingsOf members with
      | ok settings =>
          exact iff_of_true ⟨settings, rfl⟩ fun e he => exists_notice?_of_ofSettings he
      | error e =>
          refine iff_of_false nofun fun htold => ?_
          obtain ⟨message, hmessage⟩ := htold e rfl
          rw [notice?_eq_none_of_settingsOf hsettings] at hmessage
          cases hmessage

end Config

namespace Command

/-! ## Showing -/

namespace Host

variable {host : Host} {o : Output} {shown : List Output}

theorem shows_iff : host.shows o = true ↔ o.IsShowable host.markup ∧ host.takes o = true := by
  simp [shows, Output.IsShowable]

/-- What is shown is shown as a whole or not at all. -/
theorem display_eq_ok_iff {out : List Output} :
    host.display shown = .ok out ↔ out = shown ∧ ∀ o ∈ shown, host.shows o = true := by
  unfold display
  cases hfind : shown.find? fun o => !host.shows o with
  | none =>
      have hall : ∀ o ∈ shown, host.shows o = true := by simpa using List.find?_eq_none.mp hfind
      exact ⟨fun h => ⟨(Except.ok.inj h).symm, hall⟩, fun h => congrArg Except.ok h.1.symm⟩
  | some o =>
      have hmem := List.mem_of_find?_eq_some hfind
      have hfails := List.find?_some hfind
      refine iff_of_false nofun fun h => ?_
      simp [h.2 o hmem] at hfails

/-- Showing one thing after the other is showing both. -/
theorem display_append {α : Type} (more : List Output) (f : List Output → α) :
    (do
      let first ← host.display shown
      let second ← host.display more
      .ok (f (first ++ second))) = (host.display (shown ++ more)).map f := by
  unfold display
  rw [List.find?_append]
  cases shown.find? fun o => !host.shows o with
  | some o => rfl
  | none => cases more.find? fun o => !host.shows o <;> rfl

theorem takes_of_mem_ofLog {log : Log} (h : o ∈ Output.ofLog log) : host.takes o = true := by
  obtain ⟨e, -, rfl⟩ := List.mem_map.mp h
  rfl

theorem display_ofLog {log : Log} (h : log.IsShowable host.markup) :
    host.display (Output.ofLog log) = .ok (Output.ofLog log) :=
  display_eq_ok_iff.mpr ⟨rfl, fun o ho =>
    shows_iff.mpr ⟨isShowable_ofLog h o ho, takes_of_mem_ofLog ho⟩⟩

end Host

/-! ## Ending in order -/

/-- How a command that writes no file is meant to end: with code 0 if there is something valid to
work on and otherwise with code 1 and an error in the record, with nothing shown that cannot be. -/
structure Finished.IsOrderly (f : Finished) (host : Host) (tree : FileTree) (valid : Prop) :
    Prop where
  code_eq_zero (h : valid) : f.code = 0
  code_eq_one (h : ¬valid) : f.code = 1
  error (h : ¬valid) : ∃ e ∈ Output.log f.shown, e.level = .error
  shown {o : Output} (h : o ∈ f.shown) : host.shows o = true
  tree_eq : f.tree = tree

/-- A command comes to an end exactly under a condition, and then in order. -/
structure IsOrderlyIf (result : Except Failure Finished) (host : Host) (tree : FileTree)
    (valid condition : Prop) : Prop where
  ends : (∃ f, result = .ok f) ↔ condition
  orderly {f : Finished} (h : result = .ok f) : f.IsOrderly host tree valid

variable {host : Host} {tree : FileTree} {base : Location} {facts : FilePath} {text : String}
  {items : List String} {valid condition : Prop}

theorem isOrderlyIf_ok {f : Finished} (hf : f.IsOrderly host tree valid) (hcondition : condition) :
    IsOrderlyIf (.ok f) host tree valid condition where
  ends := iff_of_true ⟨f, rfl⟩ hcondition
  orderly h := Except.ok.inj h ▸ hf

theorem isOrderlyIf_error {cause : Failure} (hcondition : ¬condition) :
    IsOrderlyIf (.error cause) host tree valid condition where
  ends := iff_of_false nofun hcondition
  orderly := nofun

/-- What is in order for valid inputs is so for any that are valid. -/
theorem Finished.IsOrderly.of_valid {f : Finished} (h : f.IsOrderly host tree True)
    (hvalid : valid) : f.IsOrderly host tree valid where
  code_eq_zero _ := h.code_eq_zero trivial
  code_eq_one hinvalid := absurd hvalid hinvalid
  error hinvalid := absurd hvalid hinvalid
  shown := h.shown
  tree_eq := h.tree_eq

/-- A command that has done its work ends if the terminal takes what is left to show. -/
theorem isOrderlyIf_display {shown : List Output}
    (hshown : ∀ o ∈ shown, o.IsShowable host.markup)
    (hcondition : (∀ o ∈ shown, host.takes o = true) ↔ condition) :
    IsOrderlyIf ((host.display shown).map fun shown => ⟨0, shown, tree⟩) host tree True condition where
  ends := by
    rw [← hcondition]
    constructor
    · rintro ⟨f, hf⟩ o ho
      obtain ⟨out, hout, -⟩ := Ty.map_eq_ok_iff.mp hf
      exact (Host.shows_iff.mp ((Host.display_eq_ok_iff.mp hout).2 o ho)).2
    · intro htakes
      have hshows : ∀ o ∈ shown, host.shows o = true := fun o ho =>
        Host.shows_iff.mpr ⟨hshown o ho, htakes o ho⟩
      exact ⟨_, Ty.map_eq_ok_iff.mpr ⟨shown, Host.display_eq_ok_iff.mpr ⟨rfl, hshows⟩, rfl⟩⟩
  orderly := by
    intro f hf
    obtain ⟨out, hout, rfl⟩ := Ty.map_eq_ok_iff.mp hf
    obtain ⟨rfl, hshows⟩ := Host.display_eq_ok_iff.mp hout
    constructor
    case code_eq_zero => exact fun _ => rfl
    case code_eq_one => exact fun h => absurd trivial h
    case error => exact fun h => absurd trivial h
    case shown => exact fun ho => hshows _ ho
    case tree_eq => rfl

theorem Output.log_ofLog (log : Log) : Output.log (Output.ofLog log) = log := by
  rw [Output.log, Output.ofLog, List.filterMap_map]
  exact List.filterMap_some

/-- A command that tells the user what is wrong. -/
theorem isOrderlyIf_told {log : Log} (hmarkup : host.markup.IsSound) (hinvalid : ¬valid)
    (hlog : log.IsShowable host.markup) (message : String) (hcondition : condition) :
    IsOrderlyIf ((host.display (Output.ofLog (log ++ [wrongEntry host.markup message]))).map
      fun shown => ⟨1, shown, tree⟩) host tree valid condition := by
  have htold : Log.IsShowable (log ++ [wrongEntry host.markup message]) host.markup :=
    hlog.append (Log.isShowable_singleton (hmarkup.notice_alone .error message))
  have hdisplay := Host.display_ofLog htold
  rw [hdisplay]
  refine isOrderlyIf_ok ?_ hcondition
  constructor
  case code_eq_zero => exact fun h => absurd h hinvalid
  case code_eq_one => exact fun _ => rfl
  case error =>
    intro _
    rw [Output.log_ofLog]
    exact ⟨_, List.mem_append_right _ (List.mem_singleton.mpr rfl), rfl⟩
  case shown => exact fun h => (Host.display_eq_ok_iff.mp hdisplay).2 _ h
  case tree_eq => rfl

/-! ## Starting -/

/-- The configuration for the folder of a facts file. -/
def loadedFor (host : Host) (tree : FileTree) (base : Location) (facts : FilePath)
    (items : List String) : Loaded :=
  Config.load host.markup host.validator tree base (folderOf tree base facts)
    (Config.assignments items)

/-- What a command is to work on, if it is valid: the configuration for the folder of the facts
file, and the facts in the text of that file. -/
def inputs? (host : Host) (tree : FileTree) (base : Location) (facts : FilePath)
    (items : List String) (text : String) : Option (Config × Document) := do
  let config ← (loadedFor host tree base facts items).config.toOption
  let document ← (Document.ofText host.validator text).toOption
  some (config, document)

/-- The record of the assignments and of the settings file. -/
def startLog (host : Host) (tree : FileTree) (base : Location) (facts : FilePath)
    (items : List String) : Log :=
  Config.assignmentLog host.markup items ++ (loadedFor host tree base facts items).log

theorem isShowable_startLog (hmarkup : host.markup.IsSound) (tree : FileTree) (base : Location)
    (facts : FilePath) (items : List String) :
    (startLog host tree base facts items).IsShowable host.markup :=
  (Config.isShowable_assignmentLog hmarkup items).append
    (Config.isShowable_load hmarkup host.validator tree base _ _)

theorem holds_of_read (hread : tree.read base facts = .ok text) :
    tree.holds base facts = .ok true := by
  unfold FileTree.read at hread
  unfold FileTree.holds
  split at hread
  · next h => rw [h]
  · cases hread
  · cases hread

section Prepare

variable {config : Config} {e : SettingsError} (hread : tree.read base facts = .ok text)

include hread

theorem load_of_read (validator : Validator) :
    Document.load validator tree base facts = Document.ofText validator text := by
  rw [Document.load, hread]

theorem canReadFacts_of_read : host.canReadFacts tree base facts = host.canRead text := by
  rw [Host.canReadFacts, hread]
  rfl

theorem prepare_eq_overflow
    (hsettings : host.canReadSettings tree (folderOf tree base facts) = false) :
    prepare host tree base facts items = .error (.failed .overflow) := by
  simp [prepare, holds_of_read hread, hsettings]

variable (hsettings : host.canReadSettings tree (folderOf tree base facts) = true)

include hsettings

theorem prepare_eq_failed (hconfig : (loadedFor host tree base facts items).config = .error e)
    (hnotice : e.notice? = none) :
    prepare host tree base facts items = .error (.failed (.settings e)) := by
  rw [loadedFor] at hconfig
  simp [prepare, holds_of_read hread, hsettings, hconfig, hnotice]

theorem prepare_eq_told_of_settings {message : String}
    (hconfig : (loadedFor host tree base facts items).config = .error e)
    (hnotice : e.notice? = some message) : prepare host tree base facts items =
      .error (.told (startLog host tree base facts items ++ [wrongEntry host.markup message])) := by
  rw [loadedFor] at hconfig
  simp [prepare, holds_of_read hread, hsettings, hconfig, hnotice, startLog, loadedFor]

variable (hconfig : (loadedFor host tree base facts items).config = .ok config)

include hconfig

theorem prepare_eq_overflow_of_facts (hfacts : host.canRead text = false) :
    prepare host tree base facts items = .error (.failed .overflow) := by
  rw [loadedFor] at hconfig
  simp [prepare, holds_of_read hread, hsettings, hconfig, canReadFacts_of_read hread, hfacts]

variable (hfacts : host.canRead text = true)

include hfacts

theorem prepare_eq_told_of_facts {fault : FactsError}
    (hdocument : Document.ofText host.validator text = .error fault) :
    prepare host tree base facts items = .error (.told (startLog host tree base facts items ++
      [wrongEntry host.markup (fault.message facts.text)])) := by
  rw [loadedFor] at hconfig
  simp [prepare, holds_of_read hread, hsettings, hconfig, canReadFacts_of_read hread, hfacts,
    load_of_read hread, hdocument, startLog, loadedFor]

theorem prepare_eq_ok {document : Document}
    (hdocument : Document.ofText host.validator text = .ok document) :
    prepare host tree base facts items =
      .ok ⟨config, document, startLog host tree base facts items⟩ := by
  rw [loadedFor] at hconfig
  simp [prepare, holds_of_read hread, hsettings, hconfig, canReadFacts_of_read hread, hfacts,
    load_of_read hread, hdocument, startLog, loadedFor]

end Prepare

/-- What it takes for a run over valid inputs to come to an end, and for what is printed of it to
be shown. -/
structure RunsOn (host : Host) (config : Config) (document : Document)
    (printed : Synthesis → List Output) : Prop where
  /-- The stack is deep enough. -/
  stack : host.canRun config document = true
  /-- The scan window fits, and what has to be reported can be written. -/
  result : Synthesis.HasResult config (Synthesis.poolOf document) (.ofDocument document)
  /-- The terminal takes what is printed. -/
  printed {s : Synthesis}
    (hs : Synthesis.run config (Synthesis.poolOf document) (.ofDocument document) = .ok s)
    {o : Output} (ho : o ∈ printed s) : host.takes o = true

/-- What it takes for a command over a readable facts file to come to an end. -/
structure HasEnd (host : Host) (tree : FileTree) (base : Location) (facts : FilePath)
    (items : List String) (text : String) (printed : Synthesis → List Output) : Prop where
  /-- The stack is deep enough for the settings. -/
  settings : host.canReadSettings tree (folderOf tree base facts) = true
  /-- The settings are in a table. -/
  tables : Config.HasTables tree (folderOf tree base facts)
  /-- The stack is deep enough for the facts, if they are looked at. -/
  reading {config : Config} (hconfig : (loadedFor host tree base facts items).config = .ok config) :
    host.canRead text = true
  /-- Valid inputs can be run. -/
  run {config : Config} {document : Document}
    (hinputs : inputs? host tree base facts items text = some (config, document)) :
    RunsOn host config document printed

theorem hasTables_iff_forall_error (host : Host) (tree : FileTree) (base : Location)
    (facts : FilePath) (items : List String) :
    Config.HasTables tree (folderOf tree base facts) ↔
      ∀ e, (loadedFor host tree base facts items).config = .error e →
        ∃ message, e.notice? = some message :=
  Config.hasTables_iff_told host.markup host.validator base (Config.assignments items)

section Start

variable {go : Prepared → Except Failure Finished} {config : Config} {e : SettingsError}
  {printed : Synthesis → List Output} (hmarkup : host.markup.IsSound)
  (hread : tree.read base facts = .ok text)
  (hsettings : host.canReadSettings tree (folderOf tree base facts) = true)

include hmarkup hread hsettings

/-- Without a configuration the user is told what is wrong, or the settings are in no table. -/
theorem isOrderlyIf_start_of_error
    (hconfig : (loadedFor host tree base facts items).config = .error e) :
    IsOrderlyIf (start host tree base facts items go) host tree
      ((inputs? host tree base facts items text).isSome = true)
      (HasEnd host tree base facts items text printed) := by
  have hlog := isShowable_startLog hmarkup tree base facts items
  have hnone : inputs? host tree base facts items text = none := by
    rw [inputs?, hconfig]
    rfl
  have htold := hasTables_iff_forall_error host tree base facts items
  rw [hconfig] at htold
  unfold start
  cases hnotice : e.notice? with
  | none =>
      -- the failure is the result, and there are no tables
      rw [prepare_eq_failed hread hsettings hconfig hnotice]
      refine isOrderlyIf_error fun h => ?_
      obtain ⟨message, hmessage⟩ := htold.mp h.tables e rfl
      rw [hnotice] at hmessage
      cases hmessage
  | some message =>
      rw [prepare_eq_told_of_settings hread hsettings hconfig hnotice]
      refine isOrderlyIf_told hmarkup (by simp [hnone]) hlog message ?_
      refine ⟨hsettings, htold.mpr ?_, fun h => ?_, fun h => ?_⟩
      · rintro e' ⟨⟩
        exact ⟨message, hnotice⟩
      · rw [hconfig] at h
        cases h
      · rw [hnone] at h
        cases h

/-- With a configuration the facts are looked at, and the user is told what is wrong with them. -/
theorem isOrderlyIf_start_of_ok
    (hconfig : (loadedFor host tree base facts items).config = .ok config)
    (hgo : ∀ p : Prepared, p.log.IsShowable host.markup →
      IsOrderlyIf (go p) host tree True (RunsOn host p.config p.document printed)) :
    IsOrderlyIf (start host tree base facts items go) host tree
      ((inputs? host tree base facts items text).isSome = true)
      (HasEnd host tree base facts items text printed) := by
  have hlog := isShowable_startLog hmarkup tree base facts items
  have htables : Config.HasTables tree (folderOf tree base facts) :=
    (hasTables_iff_forall_error host tree base facts items).mpr fun e he =>
      nomatch hconfig.symm.trans he
  unfold start
  cases hfacts : host.canRead text with
  | false =>
      rw [prepare_eq_overflow_of_facts hread hsettings hconfig hfacts]
      exact isOrderlyIf_error fun h => by simp [h.reading hconfig] at hfacts
  | true =>
      cases hdocument : Document.ofText host.validator text with
      | error fault =>
          have hnone : inputs? host tree base facts items text = none := by
            rw [inputs?, hconfig, hdocument]
            rfl
          rw [prepare_eq_told_of_facts hread hsettings hconfig hfacts hdocument]
          refine isOrderlyIf_told hmarkup (by simp [hnone]) hlog _ ?_
          exact ⟨hsettings, htables, fun _ => hfacts, fun h => nomatch hnone.symm.trans h⟩
      | ok document =>
          have hsome : inputs? host tree base facts items text = some (config, document) := by
            rw [inputs?, hconfig, hdocument]
            rfl
          -- everything is valid, so the command ends as what it goes on with does
          rw [prepare_eq_ok hread hsettings hconfig hfacts hdocument]
          have hwork := hgo ⟨config, document, startLog host tree base facts items⟩ hlog
          refine ⟨hwork.ends.trans ⟨fun hruns => ?_, fun h => h.run hsome⟩,
            fun hf => (hwork.orderly hf).of_valid (by simp [hsome])⟩
          refine ⟨hsettings, htables, fun _ => hfacts, fun h => ?_⟩
          obtain ⟨rfl, rfl⟩ := Prod.mk.inj (Option.some.inj (hsome.symm.trans h))
          exact hruns

omit hsettings in
/-- A command is in order if what it goes on with is. -/
theorem isOrderlyIf_start (hgo : ∀ p : Prepared, p.log.IsShowable host.markup →
      IsOrderlyIf (go p) host tree True (RunsOn host p.config p.document printed)) :
    IsOrderlyIf (start host tree base facts items go) host tree
      ((inputs? host tree base facts items text).isSome = true)
      (HasEnd host tree base facts items text printed) := by
  cases hsettings : host.canReadSettings tree (folderOf tree base facts) with
  | false =>
      unfold start
      rw [prepare_eq_overflow hread hsettings]
      exact isOrderlyIf_error fun h => by simp [h.settings] at hsettings
  | true =>
      cases hconfig : (loadedFor host tree base facts items).config with
      | error e => exact isOrderlyIf_start_of_error hmarkup hread hsettings hconfig
      | ok config => exact isOrderlyIf_start_of_ok hmarkup hread hsettings hconfig hgo

end Start

/-! ## Commands -/

/-- What `inspect` and `synthesize` do once they have something to work on: a run, and then
something that comes to an end if the terminal takes what is printed of the run. -/
theorem isOrderlyIf_run {p : Prepared} {printed : Synthesis → List Output}
    {next : Synthesis × Log → Except Failure Finished}
    (hnext : ∀ s log, p.run host = .ok (s, log) →
      IsOrderlyIf (next (s, log)) host tree True (∀ o ∈ printed s, host.takes o = true)) :
    IsOrderlyIf (p.run host >>= next) host tree True
      (RunsOn host p.config p.document printed) := by
  have hresult := Synthesis.exists_run_iff p.config (Synthesis.poolOf p.document)
    (.ofDocument p.document)
  cases hrun : p.run host with
  | error cause =>
      -- the stack was too small or the run has no result
      refine isOrderlyIf_error fun h => ?_
      obtain ⟨s, hs⟩ := hresult.mpr h.result
      have hok := Prepared.run_eq_ok_iff.mpr ⟨h.stack, hs, rfl⟩
      rw [hrun] at hok
      cases hok
  | ok r =>
      obtain ⟨s, log⟩ := r
      obtain ⟨hstack, hs, -⟩ := Prepared.run_eq_ok_iff.mp hrun
      have hafter := hnext s log hrun
      refine ⟨hafter.ends.trans ⟨fun htakes => ?_, fun h o ho => h.printed hs ho⟩, hafter.orderly⟩
      refine ⟨hstack, hresult.mp ⟨s, hs⟩, fun hs' o ho => ?_⟩
      obtain rfl := Except.ok.inj (hs.symm.trans hs')
      exact htakes o ho

/-- A run that comes to an end has a table of its statistics. -/
theorem Prepared.exists_table {p : Prepared} {s : Synthesis} {log : Log}
    (h : p.run host = .ok (s, log)) : ∃ table, s.statistics.table? = some table := by
  have hran := Synthesis.ran_of_run (Prepared.run_eq_ok_iff.mp h).2.1
  have haverage := hran.isSome_toJson?_statistics
  rw [Statistics.toJson?, Option.isSome_map] at haverage
  rw [← Option.isSome_iff_exists, Statistics.table?, Option.isSome_map]
  exact haverage

/-- What `synthesize` prints of a run: its statistics and its drivers. -/
def summarized (markup : Markup) (s : Synthesis) : List Output :=
  (s.statistics.table?.toList ++ [driverTable markup s.drivers]).map .table

/-- A host without limits leaves the conditions on what the user wrote. -/
theorem hasEnd_standard_iff {printed : Synthesis → List Output} :
    HasEnd .standard tree base facts items text printed ↔
      Config.HasTables tree (folderOf tree base facts) ∧
        ∀ inputs ∈ inputs? .standard tree base facts items text,
          Synthesis.HasResult inputs.1 (Synthesis.poolOf inputs.2) (.ofDocument inputs.2) := by
  constructor
  · exact fun h => ⟨h.tables, fun inputs hinputs => (h.run hinputs).result⟩
  · rintro ⟨htables, hresult⟩
    have hsettings : Host.standard.canReadSettings tree (folderOf tree base facts) = true := by
      unfold Host.canReadSettings
      cases tree.nearest Config.settingsFile (folderOf tree base facts) <;> rfl
    refine ⟨hsettings, htables, fun _ => rfl, fun hinputs => ⟨rfl, hresult _ hinputs, ?_⟩⟩
    intro _ _ o _
    cases o <;> rfl

def keepFacts : String :=
  "\x7b\"crate\": \"demo\", \"apis\": [\x7b\"path\": \"demo::keep\", " ++
    "\"generics\": [\x7b\"name\": \"T\", \"bounds\": [\"Copy\"]\x7d], " ++
    "\"inputs\": [\x7b\"name\": \"value\", \"type\": \"T\"\x7d], \"output\": \"T\"\x7d]\x7d"

/-- A facts file next to a settings file. -/
def keepTree (settings : String) : FileTree where
  files := [(["facts.json"], keepFacts), (["pyproject.toml"], settings)]
  folders := []

theorem read_keepTree (settings : String) :
    (keepTree settings).read [] ⟨"facts.json"⟩ = .ok keepFacts := rfl

/-- A host whose terminal can show no table. -/
def tableless : Host where
  __ := Host.standard
  canPrint
    | .table _ => false
    | _ => true

theorem hasEnd_keepTree (printed : Synthesis → List Output) :
    HasEnd .standard (keepTree "") [] ⟨"facts.json"⟩ [] keepFacts printed := by
  have hcaps : ∀ inputs ∈ inputs? .standard (keepTree "") [] ⟨"facts.json"⟩ [] keepFacts,
      (inputs.1.maxProductScan.value : Int) ≤ maxWindow ∧
        ∀ n ∈ inputs.1.statedCaps, Text.isWritable n = true := by decide +kernel
  refine hasEnd_standard_iff.mpr ⟨by decide +kernel, fun inputs hinputs => ?_⟩
  obtain ⟨hwindow, hwritable⟩ := hcaps inputs hinputs
  exact Synthesis.hasResult_of_statedCaps (.inl hwindow) hwritable

theorem hasEnd_keepTree_invalid (printed : Synthesis → List Output) :
    HasEnd .standard (keepTree "tool.monofuzz.workers = 0") [] ⟨"facts.json"⟩ [] keepFacts
      printed := by
  have hnone : inputs? .standard (keepTree "tool.monofuzz.workers = 0") [] ⟨"facts.json"⟩ []
      keepFacts = none := by decide +kernel
  refine hasEnd_standard_iff.mpr ⟨by decide +kernel, fun inputs hinputs => ?_⟩
  rw [hnone] at hinputs
  cases hinputs

theorem not_hasEnd_keepTree_window (printed : Synthesis → List Output) :
    ¬HasEnd .standard (keepTree "") [] ⟨"facts.json"⟩ ["max_product_scan=9223372036854775808"]
      keepFacts printed := by
  let items := ["max_product_scan=9223372036854775808"]
  have hsome : (inputs? .standard (keepTree "") [] ⟨"facts.json"⟩ items keepFacts).isSome = true := by
    decide +kernel
  have hwindow : ∀ inputs ∈ inputs? .standard (keepTree "") [] ⟨"facts.json"⟩ items keepFacts,
      ¬((inputs.1.maxProductScan.value : Int) ≤ maxWindow ∨
        (Surface.ofDocument inputs.2).genericApis = []) := by decide +kernel
  intro h
  obtain ⟨inputs, hinputs⟩ := Option.isSome_iff_exists.mp hsome
  exact hwindow inputs hinputs (h.run hinputs).result.window

/-- The table of the drivers is printed of every run. -/
theorem not_hasEnd_tableless :
    ¬HasEnd tableless (keepTree "") [] ⟨"facts.json"⟩ [] keepFacts (summarized tableless.markup) := by
  have hsome : (inputs? tableless (keepTree "") [] ⟨"facts.json"⟩ [] keepFacts).isSome = true := by
    decide +kernel
  intro h
  obtain ⟨⟨config, document⟩, hinputs⟩ := Option.isSome_iff_exists.mp hsome
  obtain ⟨s, hs⟩ := (Synthesis.exists_run_iff _ _ _).mpr (h.run hinputs).result
  have hmem : Output.table (driverTable tableless.markup s.drivers) ∈
      summarized tableless.markup s :=
    List.mem_map_of_mem (List.mem_append_right _ (List.mem_singleton.mpr rfl))
  exact absurd ((h.run hinputs).printed hs hmem) Bool.false_ne_true

end Command
end FuzzSynth
