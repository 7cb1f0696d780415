/-
What commands show can be shown.

Notices, the cells of tables and styled lines are read as styled text, and one that is refused for
its tags would end the command.  Texts from outside are escaped before they are put into any of
these, and whatever else is put in has all its styles closed again.  So whoever reads the tags,
if only that is sound, refuses nothing that a command shows (`isShowable_inspected`,
`isShowable_summary`).

The other entries of the record are shown literally.  They can be told from notices by their
beginning, which is not the sign of their level.
-/
import FuzzSynth.Command.Inspect
import FuzzSynth.Command.Synthesize
import FuzzSynth.Proofs.Synthesis.Totality

namespace FuzzSynth

/-! ## Numbers -/

namespace Text

theorem isAsciiDigit_of_mem_decimalDigits (n : Nat) :
    ∀ c ∈ decimalDigits n, isAsciiDigit c = true := by
  have hdigit : ∀ n, isAsciiDigit (digitChar n) = true := by
    intro n
    have hall : ∀ k : Fin 10, isAsciiDigit (Char.ofNat (0x30 + k)) = true := by decide
    exact hall ⟨n % 10, Nat.mod_lt n (by decide)⟩
  fun_induction decimalDigits n with
  | case1 n => exact List.forall_mem_singleton.mpr (hdigit n)
  | case2 n _ ih =>
      exact List.forall_mem_append.mpr ⟨ih, List.forall_mem_singleton.mpr (hdigit n)⟩

theorem bracket_not_mem_decimalDigits (n : Nat) : '[' ∉ decimalDigits n :=
  fun h => absurd (isAsciiDigit_of_mem_decimalDigits n _ h) (by decide)

end Text

theorem Json.bracket_not_mem_intText (n : Int) : '[' ∉ (intText n).toList := by
  have hdigits := Text.bracket_not_mem_decimalDigits n.natAbs
  rw [intText, String.toList_ofList]
  split <;> simp [hdigits]

theorem Json.slash_not_mem_intText (n : Int) : '\\' ∉ (intText n).toList := by
  have hdigits : '\\' ∉ Text.decimalDigits n.natAbs :=
    fun h => absurd (Text.isAsciiDigit_of_mem_decimalDigits _ _ h) (by decide)
  rw [intText, String.toList_ofList]
  split <;> simp [hdigits]

theorem Binary64.bracket_not_mem_fixedText (places : Nat) (b : Binary64) :
    '[' ∉ (b.fixedText places).toList := by
  have hsign : ∀ negative, '[' ∉ signText negative := by decide
  cases b with
  | nan =>
      show '[' ∉ "nan".toList
      decide
  | infinite negative =>
      rw [fixedText, String.toList_append, String.toList_ofList]
      cases negative <;> decide
  | finite negative mantissa exponent =>
      -- what is written are zeros and the digits of a number, with a point between them
      have hpadded : ∀ width n, '[' ∉ padded width (Text.decimalDigits n) := by
        intro width n
        simp [padded, Text.bracket_not_mem_decimalDigits]
      simp only [fixedText, String.toList_ofList, List.mem_append, not_or]
      refine ⟨⟨hsign negative, fun h => hpadded _ _ (List.mem_of_mem_take h)⟩, ?_⟩
      split
      · exact List.not_mem_nil
      · exact List.not_mem_cons_of_ne_of_not_mem (by decide)
          fun h => hpadded _ _ (List.mem_of_mem_drop h)

/-! ## The record -/

/-- No sign begins with an ASCII character, so an entry whose text does is no notice. -/
theorem LogEntry.isNotice_eq_false {e : LogEntry} {c : Char}
    (htext : e.text.toList.head? = some c) (hc : c.toNat < 128) : e.isNotice = false := by
  have hsigns : ∀ level : Level,
      (level.sign.toList.head?.all fun d => decide (128 ≤ d.toNat)) = true := by
    intro level
    cases level <;> decide +kernel
  obtain ⟨rest, hrest⟩ := List.head?_eq_some_iff.mp htext
  rw [isNotice, hrest]
  cases hsign : e.level.sign.toList with
  | nil =>
      have hempty : e.level.sign = "" := String.toList_eq_nil_iff.mp hsign
      rw [hempty]
      rfl
  | cons d more =>
      have hd : 128 ≤ d.toNat := by
        have hall := hsigns e.level
        rw [hsign] at hall
        exact of_decide_eq_true hall
      have hne : (d == c) = false := by
        rw [beq_eq_false_iff_ne]
        rintro rfl
        omega
      rw [List.isPrefixOf, hne, Bool.false_and, Bool.and_false]

/-- No notice of a record is refused for its tags. -/
def Log.IsShowable (log : Log) (markup : Markup) : Prop :=
  ∀ e ∈ log, e.isNotice = true → markup.isFaulty e.text = false

namespace Log

variable {log other : Log} {markup : Markup}

theorem IsShowable.append (h : log.IsShowable markup) (hother : IsShowable other markup) :
    IsShowable (log ++ other) markup :=
  List.forall_mem_append.mpr ⟨h, hother⟩

theorem isShowable_nil : IsShowable [] markup :=
  fun _ h => absurd h List.not_mem_nil

theorem isShowable_singleton {e : LogEntry} (h : markup.isFaulty e.text = false) :
    IsShowable [e] markup :=
  List.forall_mem_singleton.mpr fun _ => h

/-- Details are no notices. -/
theorem isShowable_of_debug (h : ∀ e ∈ log, e.level = .debug) : log.IsShowable markup := by
  intro e he hnotice
  rw [LogEntry.isNotice, h e he] at hnotice
  cases hnotice

/-- Neither are entries that begin with an ASCII character. -/
theorem isShowable_of_ascii
    (h : ∀ e ∈ log, ∃ c, e.text.toList.head? = some c ∧ c.toNat < 128) : log.IsShowable markup := by
  intro e he hnotice
  obtain ⟨c, htext, hc⟩ := h e he
  rw [LogEntry.isNotice_eq_false htext hc] at hnotice
  cases hnotice

theorem isShowable_flatMap {α : Type} {parts : List α} {record : α → Log}
    (h : ∀ part ∈ parts, (record part).IsShowable markup) :
    IsShowable (parts.flatMap record) markup := by
  intro e he
  obtain ⟨part, hpart, he⟩ := List.mem_flatMap.mp he
  exact h part hpart e he

end Log

section Record

variable {markup : Markup} (hmarkup : markup.IsSound)

include hmarkup

/-- A message with one escaped text in it. -/
theorem Markup.IsSound.notice {level : Level} {before after : String}
    (hbefore : IsClosed (level.sign ++ before)) (hopen : '[' ∉ after.toList)
    (hclose : ']' ∉ after.toList) (s : String) :
    markup.isFaulty (LogEntry.notice level (before ++ markup.escape s ++ after)).text = false := by
  have htext : (LogEntry.notice level (before ++ markup.escape s ++ after)).text =
      (level.sign ++ before) ++ markup.escape s ++ after := by
    simp [LogEntry.notice, String.append_assoc]
  rw [htext]
  exact hmarkup.escaped hbefore hopen hclose s

/-- A message that is escaped as a whole. -/
theorem Markup.IsSound.notice_alone (level : Level) (s : String) :
    markup.isFaulty (LogEntry.notice level (markup.escape s)).text = false := by
  have hsign : IsClosed level.sign := by cases level <;> exact .plain (by decide) (by decide)
  have halone := hmarkup.escaped hsign (by decide : '[' ∉ "".toList) (by decide) s
  rwa [String.append_empty] at halone

theorem Config.isShowable_assignmentLog (items : List String) :
    (assignmentLog markup items).IsShowable markup := by
  intro e he _
  obtain ⟨item, -, rfl⟩ := List.mem_map.mp he
  exact hmarkup.notice (.plain (by decide) (by decide)) (by decide) (by decide) item

theorem Config.isShowable_load (validator : Validator) (tree : FileTree) (base folder : Location)
    (overrides : List (String × Json)) :
    (load markup validator tree base folder overrides).log.IsShowable markup := by
  unfold load
  split
  · exact Log.isShowable_nil
  · split
    · exact Log.isShowable_nil
    · exact Log.isShowable_singleton (hmarkup.notice_alone .warning _)
    · exact Log.isShowable_nil

end Record

variable {markup : Markup}

theorem Pool.Widened.isShowable_log (w : Widened) : w.log.IsShowable markup := by
  refine Log.isShowable_of_ascii fun e he => ?_
  obtain ⟨⟨fact, cause⟩, -, rfl⟩ := List.mem_map.mp he
  exact ⟨'S', by simp, by decide⟩

theorem Surface.isShowable_log (surface : Surface) : surface.log.IsShowable markup := by
  refine Log.isShowable_of_debug fun e he => ?_
  obtain ⟨d, -, rfl⟩ := List.mem_map.mp he
  rfl

theorem Signature.isShowable_instantiateFrom (api : Signature) (limits : InstanceLimits)
    (window : List Substitution) : (api.instantiateFrom limits window).log.IsShowable markup := by
  refine Log.isShowable_of_debug ?_
  have hrefusals : ∀ refused : List Instance, ∀ e ∈ refused.map refusalEntry, e.level = .debug := by
    intro refused e he
    obtain ⟨m, -, rfl⟩ := List.mem_map.mp he
    rfl
  unfold instantiateFrom
  simp only
  split
  · exact List.forall_mem_append.mpr ⟨hrefusals _, List.forall_mem_singleton.mpr rfl⟩
  · exact List.forall_mem_append.mpr ⟨hrefusals _, List.forall_mem_singleton.mpr rfl⟩

theorem Pool.isShowable_instantiate {pool : Pool} {limits : InstanceLimits} {api : Signature}
    {part : Instantiation} (h : pool.instantiate limits api = .ok part) :
    part.log.IsShowable markup := by
  cases hgeneric : api.isGeneric with
  | false =>
      rw [instantiate_plain hgeneric h]
      exact Log.isShowable_nil
  | true =>
      obtain ⟨size, -, ⟨u, -, rfl⟩ | ⟨window, -, rfl⟩⟩ := instantiate_generic hgeneric h
      · exact Log.isShowable_of_debug (List.forall_mem_singleton.mpr rfl)
      · exact api.isShowable_instantiateFrom limits window

/-- A search records details only. -/
theorem SearchSettings.Reaches.level_of_mem_log {settings : SearchSettings} {graph : Graph}
    {target : Node} {s : SearchState} (h : Reaches settings graph target s) :
    ∀ e ∈ s.log.toList, e.level = .debug := by
  have hpush : ∀ (bs : List Branch) (s : SearchState), (s.pushAll bs).log = s.log := by
    intro bs s
    induction bs with
    | nil => rfl
    | cons b bs ih => simpa [SearchState.push] using ih
  induction h with
  | start => simp [SearchState.start]
  | @step s s' _ hstep ih =>
      cases hstep with
      | refuse => exact ih
      | accept => exact ih
      | grow =>
          rw [hpush]
          exact ih
      | reject =>
          rw [SearchState.note, Array.toList_push]
          exact List.forall_mem_append.mpr ⟨ih, List.forall_mem_singleton.mpr rfl⟩

theorem SearchSettings.isShowable_search (settings : SearchSettings) (graph : Graph)
    (target : Node) : (settings.search graph target).log.IsShowable markup := by
  obtain ⟨last, hreaches, -, hfinal⟩ := settings.exists_reaches_final graph target
  have hlog : (settings.search graph target).log =
      (settings.conclude target last).log.toList ++ [searchEntry target
        (settings.final graph target).accepted.size (settings.final graph target).expansions] := by
    rw [← hfinal]
    rfl
  have hconclude : (settings.conclude target last).log = last.log := by
    unfold conclude
    split <;> rfl
  rw [hlog, hconclude]
  exact Log.isShowable_of_debug (List.forall_mem_append.mpr
    ⟨hreaches.level_of_mem_log, List.forall_mem_singleton.mpr rfl⟩)

/-- The record of a run. -/
theorem Synthesis.Ran.isShowable_log {config : Config} {pool : Pool} {surface : Surface}
    {s : Synthesis} (h : Ran config pool surface s) (hmarkup : markup.IsSound) :
    (s.log markup).IsShowable markup := by
  have hinstances : ∀ functions instances,
      Log.IsShowable [instancesEntry functions instances] markup := fun _ _ =>
    Log.isShowable_of_ascii
      (List.forall_mem_singleton.mpr ⟨'M', by simp [instancesEntry], by decide⟩)
  have hedges : ∀ edges, Log.IsShowable [edgesEntry edges] markup := fun _ =>
    Log.isShowable_of_ascii (List.forall_mem_singleton.mpr ⟨'D', by simp [edgesEntry], by decide⟩)
  have hparts : Log.IsShowable (s.parts.flatMap Instantiation.log) markup := by
    refine Log.isShowable_flatMap fun part hpart => ?_
    obtain ⟨api, -, hinstantiate⟩ := h.exists_api_of_mem_parts hpart
    exact Pool.isShowable_instantiate hinstantiate
  have hgraph : Log.IsShowable s.graph.log markup :=
    Log.isShowable_of_debug (List.forall_mem_singleton.mpr rfl)
  have hunknown : Log.IsShowable (s.unknownTargets.map (unknownTargetEntry markup)) markup := by
    intro e he _
    obtain ⟨path, -, rfl⟩ := List.mem_map.mp he
    exact isFaulty_unknownTargetEntry hmarkup path
  have houtcomes : Log.IsShowable (s.outcomes.flatMap Outcome.log) markup := by
    refine Log.isShowable_flatMap fun outcome houtcome => ?_
    rw [h.outcomes_eq] at houtcome
    obtain ⟨target, -, rfl⟩ := List.mem_map.mp houtcome
    exact config.settings.isShowable_search s.graph target
  exact ((((hparts.append (hinstances _ _)).append hgraph).append (hedges _)).append
    hunknown).append houtcomes

namespace Command

/-! ## Tables and lines -/

/-- Nothing in what is shown is refused for its tags. -/
def Output.IsShowable (o : Output) (markup : Markup) : Prop :=
  ∀ text ∈ o.styledTexts, markup.isFaulty text = false

theorem isShowable_ofLog {log : Log} (h : log.IsShowable markup) :
    ∀ o ∈ Output.ofLog log, o.IsShowable markup := by
  intro o ho text htext
  obtain ⟨e, he, rfl⟩ := List.mem_map.mp ho
  change text ∈ if e.isNotice then [e.text] else [] at htext
  split at htext
  · next hnotice =>
      obtain rfl := List.mem_singleton.mp htext
      exact h e he hnotice
  · cases htext

section Tables

variable (hmarkup : markup.IsSound)

include hmarkup

/-- A table whose title and headers hold no brackets is shown if its cells can be. -/
theorem isShowable_table {t : Table} (htitle : '[' ∉ t.title.toList)
    (hcolumns : ∀ header ∈ t.columns, '[' ∉ header.toList)
    (hrows : ∀ row ∈ t.rows, ∀ cell ∈ row, markup.isFaulty cell = false) :
    (Output.table t).IsShowable markup := by
  refine List.forall_mem_cons.mpr ⟨hmarkup.plain htitle, List.forall_mem_append.mpr ⟨?_, ?_⟩⟩
  · exact fun header hheader => hmarkup.plain (hcolumns header hheader)
  · intro cell hcell
    obtain ⟨row, hrow, hcell⟩ := List.mem_flatten.mp hcell
    exact hrows row hrow cell hcell

theorem isFaulty_intText (n : Int) : markup.isFaulty (Json.intText n) = false :=
  hmarkup.plain (Json.bracket_not_mem_intText n)

theorem isShowable_instanceTable (s : Synthesis) :
    (Output.table (instanceTable markup s)).IsShowable markup := by
  have htitle : '[' ∉ "Monomorphic APIs".toList := by decide
  have hcolumns : ∀ header ∈ ["API", "Signature", "Producers", "Consumers", "Drivers"],
      '[' ∉ header.toList := by decide
  refine isShowable_table hmarkup htitle hcolumns fun row hrow => ?_
  obtain ⟨n, -, rfl⟩ := List.mem_map.mp hrow
  simp only [instanceRow, List.forall_mem_cons]
  exact ⟨hmarkup.escaped_alone _, hmarkup.escaped_alone _, isFaulty_intText hmarkup _,
    isFaulty_intText hmarkup _, isFaulty_intText hmarkup _, by simp⟩

/-- A notice without brackets. -/
theorem isShowable_entry {e : LogEntry} (h : '[' ∉ e.text.toList) :
    (Output.entry e).IsShowable markup := by
  intro text htext
  change text ∈ if e.isNotice then [e.text] else [] at htext
  split at htext
  · obtain rfl := List.mem_singleton.mp htext
    exact hmarkup.plain h
  · cases htext

theorem isShowable_diagnosticOutput (report : Report) :
    (diagnosticOutput markup report).IsShowable markup := by
  unfold diagnosticOutput
  split
  · exact isShowable_entry hmarkup (by decide)
  · have htitle : '[' ∉ "Diagnostics".toList := by decide
    have hcolumns : ∀ header ∈ ["Kind", "Subject", "Message"], '[' ∉ header.toList := by decide
    refine isShowable_table hmarkup htitle hcolumns fun row hrow => ?_
    obtain ⟨d, -, rfl⟩ := List.mem_map.mp hrow
    have hkind : '[' ∉ d.kind.name.toList := by cases d.kind <;> decide
    simp only [List.forall_mem_cons]
    exact ⟨hmarkup.plain hkind, hmarkup.escaped_alone _, hmarkup.escaped_alone _, by simp⟩

/-- The line above the outline of a driver has its number in bold and its target in color. -/
theorem isShowable_driverOutline (number : Nat) (d : Driver) :
    ∀ o ∈ driverOutline markup number d, o.IsShowable markup := by
  refine List.forall_mem_cons.mpr ⟨List.forall_mem_singleton.mpr ?_, ?_⟩
  · have hempty : Markup.IsClosed "" := .plain (by decide) (by decide)
    have hspace : Markup.IsClosed " " := .plain (by decide) (by decide)
    have hbold : Markup.IsClosed ("" ++ Markup.tagged "bold" ("#" ++ Json.intText number) ++ " ") :=
      .tagged (by decide) hempty (by simp [Json.bracket_not_mem_intText])
        (by simp [Json.slash_not_mem_intText]) hspace
    have hline := hmarkup.styled (by decide : "cyan" ∈ Markup.styles) hbold
      (by decide : '[' ∉ "".toList) d.target.api.key
    have htext : "[bold]#" ++ Json.intText number ++ "[/bold] [cyan]" ++
        markup.escape d.target.api.key ++ "[/cyan]" =
          "" ++ Markup.tagged "bold" ("#" ++ Json.intText number) ++ " " ++
            Markup.tagged "cyan" (markup.escape d.target.api.key) ++ "" :=
      String.toList_inj.mp (by simp [Markup.tagged])
    rwa [← htext] at hline
  · intro o ho text htext
    obtain ⟨line, -, rfl⟩ := List.mem_map.mp ho
    cases htext

theorem isShowable_outlines (drivers : List Driver) :
    ∀ o ∈ outlines markup drivers, o.IsShowable markup := by
  intro o ho
  obtain ⟨outline, houtline, ho⟩ := List.mem_flatten.mp ho
  obtain ⟨i, hi, rfl⟩ := List.mem_mapIdx.mp houtline
  exact isShowable_driverOutline hmarkup i _ o ho

theorem isFaulty_beginEntry (crate : String) :
    markup.isFaulty (beginEntry markup crate).text = false := by
  have hfront : Markup.IsClosed (Level.info.sign ++ "Synthesizing drivers for crate ") :=
    .plain (by decide) (by decide)
  have hbegin := hmarkup.styled (by decide : "code" ∈ Markup.styles) hfront
    (by decide : '[' ∉ "...".toList) crate
  have htext : (beginEntry markup crate).text = Level.info.sign ++
      "Synthesizing drivers for crate " ++ Markup.tagged "code" (markup.escape crate) ++ "..." :=
    String.toList_inj.mp (by simp [beginEntry, LogEntry.notice, Markup.tagged])
  rwa [← htext] at hbegin

theorem isShowable_diagnosticsLog (report : Report) :
    (diagnosticsLog report).IsShowable markup := by
  unfold diagnosticsLog
  split
  · exact Log.isShowable_nil
  · refine Log.isShowable_singleton (hmarkup.plain ?_)
    have hnumber := Json.bracket_not_mem_intText report.length
    simp [LogEntry.notice, Level.sign, hnumber]

theorem isShowable_driverTable (drivers : List Driver) :
    (Output.table (driverTable markup drivers)).IsShowable markup := by
  have htitle : '[' ∉ "Drivers".toList := by decide
  have hcolumns : ∀ header ∈ ["Target", "Calls", "Seeds", "Min bytes"], '[' ∉ header.toList := by
    decide
  refine isShowable_table hmarkup htitle hcolumns fun row hrow => ?_
  obtain ⟨d, -, rfl⟩ := List.mem_map.mp hrow
  simp only [List.forall_mem_cons]
  exact ⟨hmarkup.escaped_alone _, isFaulty_intText hmarkup _, isFaulty_intText hmarkup _,
    isFaulty_intText hmarkup _, by simp⟩

/-- The names of the kinds of diagnostics stand between tags as they are. -/
theorem isFaulty_kind (kind : DiagnosticKind) :
    markup.isFaulty ("[yellow]" ++ kind.name ++ "[/yellow]") = false := by
  have hempty : Markup.IsClosed "" := .plain (by decide) (by decide)
  have hopen : '[' ∉ kind.name.toList := by cases kind <;> decide
  have hslash : '\\' ∉ kind.name.toList := by cases kind <;> decide
  have hkind := hmarkup.closed
    (.tagged (by decide : "yellow" ∈ Markup.styles) hempty hopen hslash hempty)
  have htext : "[yellow]" ++ kind.name ++ "[/yellow]" =
      "" ++ Markup.tagged "yellow" kind.name ++ "" :=
    String.toList_inj.mp (by simp [Markup.tagged])
  rwa [← htext] at hkind

theorem isShowable_statistics {s : Synthesis} {table : Table}
    (h : s.statistics.table? = some table) : (Output.table table).IsShowable markup := by
  obtain ⟨average, -, rfl⟩ := Option.map_eq_some_iff.mp h
  have htitle : '[' ∉ "Synthesis Summary".toList := by decide
  have hcolumns : ∀ header ∈ ["Metric", "Value"], '[' ∉ header.toList := by decide
  have haverage : markup.isFaulty (average.fixedText 2) = false :=
    hmarkup.plain (average.bracket_not_mem_fixedText 2)
  refine isShowable_table hmarkup htitle hcolumns
    (List.forall_mem_append.mpr ⟨?_, fun row hrow => ?_⟩)
  · -- each counter stands behind its name
    have hnames : ∀ name ∈ ["Functions", "Generic functions", "Monomorphized generics",
        "Monomorphic APIs", "Instances per generic", "Dependency edges", "Targets", "Drivers",
        "Seed points"], markup.isFaulty name = false :=
      fun name hname => hmarkup.plain ((by decide : ∀ name ∈ ["Functions", "Generic functions",
        "Monomorphized generics", "Monomorphic APIs", "Instances per generic", "Dependency edges",
        "Targets", "Drivers", "Seed points"], '[' ∉ name.toList) name hname)
    simp only [List.forall_mem_cons, List.not_mem_nil, false_imp_iff, implies_true, and_true]
      at hnames ⊢
    simp [hnames, haverage, isFaulty_intText hmarkup]
  · obtain ⟨⟨name, n⟩, hentry, rfl⟩ := List.mem_map.mp hrow
    obtain ⟨⟨kind, count⟩, -, heq⟩ := List.mem_map.mp hentry
    obtain ⟨rfl, rfl⟩ := Prod.mk.inj heq
    simp only [List.forall_mem_cons]
    exact ⟨isFaulty_kind hmarkup kind, isFaulty_intText hmarkup _, by simp⟩

end Tables

/-! ## What the commands show -/

variable {host : Host} {p : Prepared} {s : Synthesis} {log : Log}

/-- A run is that over the document; its record begins with those of reading the document. -/
theorem Prepared.run_eq_ok_iff : p.run host = .ok (s, log) ↔
    host.canRun p.config p.document = true ∧
      Synthesis.run p.config (Synthesis.poolOf p.document) (.ofDocument p.document) = .ok s ∧
      log = (Pool.ofFacts p.document.candidates true).log ++ (Surface.ofDocument p.document).log ++
        s.log host.markup := by
  have hpool : (Pool.ofFacts p.document.candidates true).pool = Synthesis.poolOf p.document := rfl
  simp only [run, hpool]
  split
  · next hstack =>
      simp only [hstack, true_and]
      cases Synthesis.run p.config (Synthesis.poolOf p.document) (.ofDocument p.document) with
      | error e => exact iff_of_false nofun fun h => nomatch h.1
      | ok s' =>
          rw [Except.ok.injEq, Prod.mk.injEq, Except.ok.injEq]
          refine and_congr_right fun hs => ?_
          rw [hs, eq_comm]
  · next hstack => exact iff_of_false nofun fun h => hstack h.1

theorem Prepared.isShowable_log (hmarkup : host.markup.IsSound) (h : p.run host = .ok (s, log)) :
    log.IsShowable host.markup := by
  obtain ⟨-, hrun, rfl⟩ := Prepared.run_eq_ok_iff.mp h
  exact ((Pool.Widened.isShowable_log _).append (Surface.isShowable_log _)).append
    ((Synthesis.ran_of_run hrun).isShowable_log hmarkup)

theorem isShowable_inspected (hmarkup : markup.IsSound) (outline : Bool) (s : Synthesis) :
    ∀ o ∈ inspected markup outline s, o.IsShowable markup := by
  refine List.forall_mem_append.mpr ⟨List.forall_mem_cons.mpr ⟨?_, ?_⟩, ?_⟩
  · exact isShowable_instanceTable hmarkup s
  · exact List.forall_mem_singleton.mpr (isShowable_diagnosticOutput hmarkup s.report)
  · cases outline with
    | false => exact fun o ho => absurd ho List.not_mem_nil
    | true => exact isShowable_outlines hmarkup s.drivers

/-- What `synthesize` shows after the record of a run. -/
theorem isShowable_summary (hmarkup : markup.IsSound) {table : Table}
    (htable : s.statistics.table? = some table) :
    ∀ o ∈ .table table :: Output.ofLog (diagnosticsLog s.report), o.IsShowable markup :=
  List.forall_mem_cons.mpr ⟨isShowable_statistics hmarkup htable,
    isShowable_ofLog (isShowable_diagnosticsLog hmarkup s.report)⟩

end Command
end FuzzSynth
