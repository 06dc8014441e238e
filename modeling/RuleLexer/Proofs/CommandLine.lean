import RuleLexer.Command
import RuleLexer.Proofs.Sample

/-!
# Runs of the command line

Behind the command stand files, and options each with its value; only an option at the very end may
lack its value. What the arguments mean is read off this form. A run over files does what the runs
over each of them do, in order: their outputs are joined, and it fails when one of them does. Every
other run is refused, or prints the constants.
-/

namespace RuleLexer.Command

/-! ## The form of the arguments -/

/-- A file, or the option with its value. -/
inductive Item where
  | file (path : String) (plain : path ≠ "--config")
  | config (path : String)

namespace Item

def render : Item → List String
  | file path _ => [path]
  | config path => ["--config", path]

def file? : Item → Option String
  | file path _ => some path
  | config _ => none

def config? : Item → Option String
  | file _ _ => none
  | config path => some path

end Item

def render (items : List Item) : List String := items.flatMap Item.render

def filesOf (items : List Item) : List String := items.filterMap Item.file?

/-- The configuration that counts. -/
def lastConfig? (items : List Item) : Option String := (items.filterMap Item.config?).getLast?

section Arguments
variable {path : String} {items : List Item} {args rest : List String}

theorem splitArguments_file (hpath : path ≠ "--config") :
    splitArguments (path :: rest) =
      (splitArguments rest).map fun a => { a with files := path :: a.files } := by
  rw [splitArguments]
  · exact fun h _ => hpath h
  · exact fun _ _ h _ => hpath h

/-- Every list of arguments has this form, but for a last option that may lack its value. -/
theorem exists_items (args : List String) :
    ∃ items, args = render items ∨ args = render items ++ ["--config"] := by
  fun_induction splitArguments args with
  | case1 => exact ⟨[], .inl rfl⟩
  | case2 => exact ⟨[], .inr rfl⟩
  | case3 path rest ih =>
    obtain ⟨items, rfl | rfl⟩ := ih
    · exact ⟨.config path :: items, .inl rfl⟩
    · exact ⟨.config path :: items, .inr rfl⟩
  | case4 path rest hlast hvalue ih =>
    have plain : path ≠ "--config" := by
      rintro rfl
      cases rest with
      | nil => exact hlast rfl rfl
      | cons value rest => exact hvalue value rest rfl rfl
    obtain ⟨items, rfl | rfl⟩ := ih
    · exact ⟨.file path plain :: items, .inl rfl⟩
    · exact ⟨.file path plain :: items, .inr rfl⟩

/-- The arguments in front of others come to what their files and options say. -/
theorem splitArguments_render_append (items : List Item) (rest : List String) :
    splitArguments (render items ++ rest) =
      (splitArguments rest).map fun a =>
        ⟨a.config <|> lastConfig? items, filesOf items ++ a.files⟩ := by
  induction items with
  | nil => simp [render, lastConfig?, filesOf]
  | cons item items ih =>
    cases item with
    | file path plain =>
      have hrender : render (.file path plain :: items) ++ rest = path :: (render items ++ rest) :=
        rfl
      rw [hrender, splitArguments_file plain, ih, Option.map_map]
      rfl
    | config path =>
      have hrender : render (.config path :: items) ++ rest =
          "--config" :: path :: (render items ++ rest) := rfl
      have hlast : lastConfig? (.config path :: items) = (lastConfig? items <|> some path) := by
        simp [lastConfig?, Item.config?, List.getLast?_cons]
      rw [hrender, splitArguments, ih, Option.map_map, hlast]
      refine Option.map_congr fun a _ => ?_
      simp only [Function.comp_apply, Option.orElse_eq_orElse, Option.orElse_eq_or, Option.or_assoc]
      rfl

theorem splitArguments_render (items : List Item) :
    splitArguments (render items) = some ⟨lastConfig? items, filesOf items⟩ := by
  have h := splitArguments_render_append items []
  rwa [List.append_nil, splitArguments, Option.map_some, List.append_nil] at h

theorem splitArguments_without_value (items : List Item) :
    splitArguments (render items ++ ["--config"]) = none := by
  rw [splitArguments_render_append, splitArguments, Option.map_none]

/-- The arguments that name a configuration. -/
def configArguments : Option String → List String
  | none => []
  | some path => ["--config", path]

theorem splitArguments_files_append {paths : List String} (hpaths : "--config" ∉ paths) :
    splitArguments (paths ++ rest) =
      (splitArguments rest).map fun a => { a with files := paths ++ a.files } := by
  induction paths with
  | nil => simp
  | cons path paths ih =>
    obtain ⟨hpath, hpaths⟩ := List.ne_and_not_mem_of_not_mem_cons hpaths
    rw [List.cons_append, splitArguments_file hpath.symm, ih hpaths, Option.map_map]
    rfl

/-- A single configuration counts wherever it stands among the files. -/
theorem splitArguments_one_config {front back : List String} (hfront : "--config" ∉ front)
    (hback : "--config" ∉ back) (config : Option String) :
    splitArguments (front ++ (configArguments config ++ back)) = some ⟨config, front ++ back⟩ := by
  have hfiles : splitArguments (back ++ []) = _ := splitArguments_files_append hback
  rw [List.append_nil, splitArguments, Option.map_some, List.append_nil] at hfiles
  rw [splitArguments_files_append hfront]
  cases config with
  | none => rw [configArguments, List.nil_append, hfiles, Option.map_some]
  | some path =>
    rw [configArguments, List.cons_append, List.cons_append, List.nil_append, splitArguments, hfiles]
    rfl

end Arguments

/-! ## Files -/

section Files
variable {fs : FileSystem} {r : Rules} {listing : Bool} {path : String}

/-- A file that cannot be loaded or does not consist of tokens. -/
def Fails (fs : FileSystem) (r : Rules) (path : String) : Prop :=
  (∃ e, Source.load fs path = .error e) ∨
    ∃ s e, Source.load fs path = .ok s ∧ r.tokenize s = .error e

theorem failed_processFile_iff : (processFile fs r listing path).failed = true ↔ Fails fs r path := by
  unfold processFile Fails
  cases hload : Source.load fs path with
  | error e => simp
  | ok s =>
    cases htokens : r.tokenize s with
    | error e => simp [htokens]
    | ok tokens => cases listing <;> simp [htokens]

theorem code_processFiles_iff {paths : List String} :
    (processFiles fs r listing paths).code = 1 ↔ ∃ path ∈ paths, Fails fs r path := by
  simp [processFiles, failed_processFile_iff]

theorem code_processFiles_lt (paths : List String) :
    (processFiles fs r listing paths).code < 2 := by
  rw [processFiles]
  dsimp only
  split <;> decide

/-- The files of two lists are processed apart from each other. -/
theorem processFiles_append (front back : List String) :
    processFiles fs r listing (front ++ back) =
      ⟨if (processFiles fs r listing front).code = 0 ∧ (processFiles fs r listing back).code = 0
        then 0 else 1,
        (processFiles fs r listing front).stdout ++ (processFiles fs r listing back).stdout,
        (processFiles fs r listing front).stderr ++ (processFiles fs r listing back).stderr⟩ := by
  simp only [processFiles, List.map_append, String.join_append, List.any_append, Bool.or_eq_true]
  by_cases hfront : (front.map (processFile fs r listing)).any (·.failed) = true
  · simp only [hfront, true_or, if_true, Nat.one_ne_zero, false_and, if_false]
  · simp only [hfront, Bool.false_eq_true, false_or, if_false, true_and, ite_eq_right_iff,
      Nat.one_ne_zero, imp_false, ite_not]

end Files

/-! ## Runs -/

/-- A command that processes files. -/
def ForFiles (command : String) : Prop := command = "tokens" ∨ command = "check"

/-- The run of a command over files, with one configuration or the bundled one. -/
def runOn (fs : FileSystem) (command : String) (config : Option String) (paths : List String) :
    Outcome :=
  run fs (command :: (configArguments config ++ paths))

section Runs
variable {fs : FileSystem} {r : Rules} {command : String} {config : Option String}
  {args paths front back : List String} {a : Arguments} {e : LoadError}

theorem run_of_split_eq (h : splitArguments front = splitArguments back) :
    run fs (command :: front) = run fs (command :: back) := by
  rw [run, run, h]

theorem run_of_ok (hhelp : ¬ (command = "--help" ∨ command = "-h"))
    (hsplit : splitArguments args = some a) (hload : loadRules fs a.config = .ok r) :
    run fs (command :: args) = runCommand fs r command a.files := by
  rw [run, if_neg hhelp, hsplit]
  dsimp only
  rw [hload]

theorem runCommand_of_forFiles (hcommand : ForFiles command) (hne : paths ≠ []) :
    runCommand fs r command paths = processFiles fs r (command = "tokens") paths := by
  have hconstants : command ≠ "constants" := by
    rcases hcommand with rfl | rfl <;> decide
  have hempty : ¬ paths.isEmpty = true := by simpa using hne
  unfold ForFiles at hcommand
  rw [runCommand, if_neg hconstants, if_pos hcommand, if_neg hempty]

theorem runOn_eq (hcommand : ForFiles command) (hload : loadRules fs config = .ok r)
    (hpaths : "--config" ∉ paths) (hne : paths ≠ []) :
    runOn fs command config paths = processFiles fs r (command = "tokens") paths := by
  have hsplit : splitArguments (configArguments config ++ paths) = some ⟨config, paths⟩ :=
    splitArguments_one_config List.not_mem_nil hpaths config
  have hhelp : ¬ (command = "--help" ∨ command = "-h") := by
    rcases hcommand with rfl | rfl <;> decide
  rw [runOn, run_of_ok hhelp hsplit hload, runCommand_of_forFiles hcommand hne]

theorem exists_minilang : ∃ r, Minilang.rules = .ok r := by
  have h : Minilang.rules.toOption.isSome = true := by decide +kernel
  cases hrules : Minilang.rules with
  | ok r => exact ⟨r, rfl⟩
  | error e =>
    rw [hrules] at h
    cases h

end Runs

/-- The arguments that are refused. -/
inductive Refused (fs : FileSystem) : List String → Prop where
  | noCommand : Refused fs []
  | help {command : String} (args : List String) (hcommand : command = "--help" ∨ command = "-h") :
      Refused fs (command :: args)
  | noValue (command : String) (items : List Item) :
      Refused fs (command :: (render items ++ ["--config"]))
  | configuration (command : String) {items : List Item} {path : String} {e : LoadError}
      (hlast : lastConfig? items = some path) (hload : Rules.ofFile fs path = .error e) :
      Refused fs (command :: render items)
  | unknown {command : String} (items : List Item) (hcommand : ¬ ForFiles command)
      (hconstants : command ≠ "constants") : Refused fs (command :: render items)
  | noFiles {command : String} {items : List Item} (hcommand : ForFiles command)
      (hfiles : filesOf items = []) : Refused fs (command :: render items)

section Refusals
variable {fs : FileSystem} {r : Rules} {command : String} {items : List Item}
  {paths : List String}

theorem code_runCommand_eq_two_iff :
    (runCommand fs r command paths).code = 2 ↔
      (¬ ForFiles command ∧ command ≠ "constants") ∨ ForFiles command ∧ paths = [] := by
  by_cases hconstants : command = "constants"
  · simp [runCommand, ForFiles, hconstants]
  · by_cases hfiles : ForFiles command
    · cases paths with
      | nil =>
        have hcommand : command = "tokens" ∨ command = "check" := hfiles
        simp [runCommand, hconstants, hfiles, hcommand, refusal]
      | cons path paths =>
        have hlt : (processFiles fs r (command = "tokens") (path :: paths)).code < 2 :=
          code_processFiles_lt (path :: paths)
        simp [runCommand_of_forFiles hfiles, hfiles, Nat.ne_of_lt hlt]
    · have hcommand : ¬ (command = "tokens" ∨ command = "check") := hfiles
      simp [runCommand, hconstants, hfiles, hcommand, refusal]

/-- Arguments that are complete are refused for what they say. -/
theorem code_run_render_eq_two_iff (hhelp : ¬ (command = "--help" ∨ command = "-h")) :
    (run fs (command :: render items)).code = 2 ↔
      (∃ e, loadRules fs (lastConfig? items) = .error e) ∨
        (¬ ForFiles command ∧ command ≠ "constants") ∨ ForFiles command ∧ filesOf items = [] := by
  rw [run, if_neg hhelp, splitArguments_render]
  dsimp only
  cases hload : loadRules fs (lastConfig? items) with
  | error e => simp [refusal]
  | ok r => simp [code_runCommand_eq_two_iff]

theorem code_run_eq_two_iff {args : List String} : (run fs args).code = 2 ↔ Refused fs args := by
  cases args with
  | nil => exact ⟨fun _ => .noCommand, fun _ => rfl⟩
  | cons command args =>
    by_cases hhelp : command = "--help" ∨ command = "-h"
    · rw [run, if_pos hhelp]
      exact ⟨fun _ => .help args hhelp, fun _ => rfl⟩
    · constructor
      · intro h
        obtain ⟨items, rfl | rfl⟩ := exists_items args
        · rcases (code_run_render_eq_two_iff hhelp).1 h with ⟨e, hload⟩ | hunknown | hempty
          · cases hlast : lastConfig? items with
            | none =>
              -- the bundled rules load
              obtain ⟨r, hr⟩ := exists_minilang
              rw [hlast, loadRules, hr] at hload
              cases hload
            | some path =>
              rw [hlast] at hload
              exact .configuration command hlast hload
          · exact .unknown items hunknown.1 hunknown.2
          · exact .noFiles hempty.1 hempty.2
        · exact .noValue command items
      · intro h
        cases h with
        | help args hcommand => exact absurd hcommand hhelp
        | noValue command items => rw [run, if_neg hhelp, splitArguments_without_value]; rfl
        | configuration command hlast hload =>
          exact (code_run_render_eq_two_iff hhelp).2 (.inl ⟨_, by rw [hlast]; exact hload⟩)
        | unknown items hcommand hconstants =>
          exact (code_run_render_eq_two_iff hhelp).2 (.inr (.inl ⟨hcommand, hconstants⟩))
        | noFiles hcommand hfiles =>
          exact (code_run_render_eq_two_iff hhelp).2 (.inr (.inr ⟨hcommand, hfiles⟩))

end Refusals

/-- Files are processed apart from each other and in order. A run over files fails exactly when one
of them does, its configuration may stand anywhere among them, and the arguments that are refused are
known. -/
theorem run_files_apart (fs : FileSystem) :
    (∀ command config r, ForFiles command → loadRules fs config = .ok r →
      (∀ front back, front ≠ [] → back ≠ [] → "--config" ∉ front → "--config" ∉ back →
        runOn fs command config (front ++ back) =
          ⟨if (runOn fs command config front).code = 0 ∧ (runOn fs command config back).code = 0
            then 0 else 1,
            (runOn fs command config front).stdout ++ (runOn fs command config back).stdout,
            (runOn fs command config front).stderr ++ (runOn fs command config back).stderr⟩) ∧
      ∀ paths, paths ≠ [] → "--config" ∉ paths →
        ((runOn fs command config paths).code = 1 ↔ ∃ path ∈ paths, Fails fs r path)) ∧
    (∀ command config front back, "--config" ∉ front → "--config" ∉ back →
      run fs (command :: (front ++ (configArguments config ++ back))) =
        runOn fs command config (front ++ back)) ∧
    ∀ args, (run fs args).code = 2 ↔ Refused fs args := by
  refine ⟨?_, ?_, fun args => code_run_eq_two_iff⟩
  · intro command config r hcommand hload
    constructor
    · intro front back hfront hback hfiles hfiles'
      have hboth : "--config" ∉ front ++ back := List.not_mem_append hfiles hfiles'
      have hne : front ++ back ≠ [] := List.append_ne_nil_of_left_ne_nil hfront back
      rw [runOn_eq hcommand hload hboth hne, runOn_eq hcommand hload hfiles hfront,
        runOn_eq hcommand hload hfiles' hback, processFiles_append]
    · intro paths hne hfiles
      rw [runOn_eq hcommand hload hfiles hne, code_processFiles_iff]
  · intro command config front back hfront hback
    have hboth : "--config" ∉ front ++ back := List.not_mem_append hfront hback
    have hsplit : splitArguments (configArguments config ++ (front ++ back)) = _ :=
      splitArguments_one_config List.not_mem_nil hboth config
    exact run_of_split_eq ((splitArguments_one_config hfront hback config).trans hsplit.symm)

/-- One file and nothing else. -/
def sampleFiles : FileSystem := fun path => if path = "a" then .ok "x" else .error .notFound

/-- A missing file fails, and the file behind it is processed all the same. -/
theorem run_files_apart_sample :
    ∃ r, loadRules sampleFiles none = .ok r ∧
      (runOn sampleFiles "check" none ["b"]).code = 1 ∧
      (runOn sampleFiles "check" none ["b", "a"]).stderr =
        (runOn sampleFiles "check" none ["b"]).stderr ++
          (runOn sampleFiles "check" none ["a"]).stderr ∧
      run sampleFiles ["check", "b", "--config", "a"] =
        runOn sampleFiles "check" (some "a") ["b"] ∧
      (run sampleFiles ["check", "b", "--config"]).code = 2 := by
  obtain ⟨happart, hanywhere, hrefused⟩ := run_files_apart sampleFiles
  obtain ⟨r, hr⟩ := exists_minilang
  obtain ⟨hjoin, hfails⟩ := happart "check" none r (.inr rfl) hr
  have hmissing : Fails sampleFiles r "b" := .inl ⟨_, rfl⟩
  refine ⟨r, hr, ?_, ?_, ?_, ?_⟩
  · exact (hfails ["b"] (by decide) (by decide)).2 ⟨"b", List.mem_singleton_self "b", hmissing⟩
  · have houtcome := hjoin ["b"] ["a"] (by decide) (by decide) (by decide) (by decide)
    exact congrArg Outcome.stderr houtcome
  · exact hanywhere "check" (some "a") ["b"] [] (by decide) (by decide)
  · have hplain : "b" ≠ "--config" := by decide
    exact (hrefused _).2 (.noValue "check" [.file "b" hplain])

end RuleLexer.Command
