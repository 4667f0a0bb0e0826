import ImportPolicy.Log
import ImportPolicy.Proofs.Answer

/-!
# The loggers over a run

Levels are set in two places: by a configuration, and by whoever asks for a
logger before there was one. Both read the variable of the environment, which
changes between them and may name something that is no level, so that either
can fail.

All that can happen is said once, by `configure_eq` and `request_eq`: the
first thing that a configuration does is also the only one that can fail, so
a configuration that fails has changed nothing, and one that does not fail
ends in `configuredTo`. Two things are then carried through a run. The handler
and the propagation go with the mark that levels were set (`Balanced`); and
once the mark is there, only a configuration that succeeds can touch a level
(`levels_run`).
-/

namespace ImportPolicy.Log.Loggers

variable {s : Loggers} {name other : String} {quiet verbose : Bool} {n : Nat}
  {changes : List Step}

/-- The loggers that a configuration sets: the top one and those it knows. -/
def governed : List String := topName :: knownNames.map fullName

/-! ## Levels -/

theorem lookup_filter_ne (h : other ≠ name) (levels : List (String × Nat)) :
    (levels.filter (·.1 ≠ name)).lookup other = levels.lookup other := by
  induction levels with
  | nil => rfl
  | cons entry more ih =>
    obtain ⟨key, level⟩ := entry
    by_cases hkey : key = name
    · have hother : (other == key) = false := by simpa [hkey] using h
      rw [List.filter_cons_of_neg (by simpa using hkey), List.lookup_cons, hother, ih]
    · rw [List.filter_cons_of_pos (by simpa using hkey), List.lookup_cons, List.lookup_cons, ih]

@[simp] theorem level_withLevel_self (s : Loggers) (name : String) (n : Nat) :
    (s.withLevel name n).level name = n := by
  simp [level, withLevel]

theorem level_withLevel_of_ne (h : other ≠ name) (s : Loggers) (n : Nat) :
    (s.withLevel name n).level other = s.level other := by
  have hother : (other == name) = false := by simpa using h
  rw [level, withLevel, List.lookup_cons, hother, lookup_filter_ne h, level]

/-- The loggers with one level for several of them. -/
def withLevels (s : Loggers) (names : List String) (n : Nat) : Loggers :=
  names.foldl (·.withLevel · n) s

theorem level_withLevels (names : List String) (s : Loggers) (n : Nat) (name : String) :
    (s.withLevels names n).level name = if name ∈ names then n else s.level name := by
  induction names generalizing s with
  | nil => rfl
  | cons first more ih =>
    rw [withLevels, List.foldl_cons, ← withLevels, ih]
    by_cases hmore : name ∈ more
    · simp [hmore]
    · by_cases hfirst : name = first
      · subst hfirst
        simp [hmore]
      · simp [hmore, hfirst, level_withLevel_of_ne hfirst]

/-- Setting levels touches nothing else. -/
theorem withLevels_frame (names : List String) (s : Loggers) (n : Nat) :
    (s.withLevels names n).handlers = s.handlers
      ∧ (s.withLevels names n).propagate = s.propagate := by
  induction names generalizing s with
  | nil => exact ⟨rfl, rfl⟩
  | cons first more ih => exact ih (s.withLevel first n)

/-! ## What a step does -/

theorem bind_of_ok {α β : Type} {x : Change α} {f : α → Change β} {a : α} {next : Loggers}
    (h : x s = .ok a next) : (x >>= f) s = f a next := by
  show EStateM.bind x f s = _
  rw [EStateM.bind, h]

theorem forM_setLevel (names : List String) (s : Loggers) (n : Nat) :
    (names.forM fun name => setLevel (fullName name) (.ok n)) s
      = .ok () (s.withLevels (names.map fullName) n) := by
  induction names generalizing s with
  | nil => rfl
  | cons first more ih => exact ih (s.withLevel (fullName first) n)

/-- The loggers after a configuration that succeeds. -/
def configuredTo (s : Loggers) (n : Nat) : Loggers :=
  { (s.withLevel topName n).withHandler.withLevels (knownNames.map fullName) n with
    configured := true }

/-- **What a configuration does**: it sets everything, or it fails and has
changed nothing. -/
theorem configure_eq (quiet verbose : Bool) (s : Loggers) :
    configure quiet verbose s = match wanted quiet verbose s.setting with
      | .ok n => .ok () (s.configuredTo n)
      | .error f => .error f s := by
  show (setLevel topName (wanted quiet verbose s.setting) >>= _) s = _
  cases wanted quiet verbose s.setting with
  | error f => rfl
  | ok n =>
    have htop : setLevel topName (.ok n) s = .ok () (s.withLevel topName n) := rfl
    have hhandler : (modify withHandler : Change Unit) (s.withLevel topName n)
        = .ok () (s.withLevel topName n).withHandler := rfl
    have hknown := forM_setLevel knownNames (s.withLevel topName n).withHandler n
    rw [bind_of_ok htop, bind_of_ok hhandler, bind_of_ok hknown]
    rfl

/-- **What asking for a logger does**: nothing once levels were set, and else
it sets the level of that logger, or it fails and has changed nothing. -/
theorem request_eq (name : String) (s : Loggers) :
    request name s = if s.configured then .ok () s else match levelFrom s.setting with
      | .ok n => .ok () (s.withLevel (fullName name) n)
      | .error f => .error f s := by
  show (if !s.configured then setLevel (fullName name) (levelFrom s.setting) else pure ()) s = _
  cases s.configured with
  | true => rfl
  | false => cases levelFrom s.setting with
    | ok n => rfl
    | error f => rfl

/-- **What a step does**: nothing if it fails or there is nothing to do;
otherwise it sets the variable, configures the loggers, or sets the level of
one logger, as long as levels were not set before. -/
theorem after_cases (s : Loggers) (change : Step) :
    s.after change = s
    ∨ (∃ value, s.after change = { s with setting := value })
    ∨ (∃ quiet verbose n, change = .configure quiet verbose
      ∧ wanted quiet verbose s.setting = .ok n ∧ s.after change = s.configuredTo n)
    ∨ (∃ name n, s.configured = false ∧ s.after change = s.withLevel (fullName name) n) := by
  cases change with
  | setting value => exact .inr (.inl ⟨value, rfl⟩)
  | configure quiet verbose =>
    unfold after Step.perform
    dsimp only
    rw [configure_eq]
    cases hwanted : wanted quiet verbose s.setting with
    | ok n => exact .inr (.inr (.inl ⟨quiet, verbose, n, rfl, hwanted, rfl⟩))
    | error f => exact .inl rfl
  | get name =>
    unfold after Step.perform
    dsimp only
    rw [request_eq]
    by_cases hconfigured : s.configured = true
    · rw [if_pos hconfigured]
      exact .inl rfl
    · rw [if_neg hconfigured]
      cases levelFrom s.setting with
      | ok n => exact .inr (.inr (.inr ⟨name, n, by simpa using hconfigured, rfl⟩))
      | error f => exact .inl rfl

/-- A configuration succeeds exactly if what is wanted is a level. -/
theorem isOk_step_configure :
    (s.step (.configure quiet verbose)).isOk = (wanted quiet verbose s.setting).isOk := by
  unfold step Step.perform
  dsimp only
  rw [configure_eq]
  cases wanted quiet verbose s.setting with
  | ok n => rfl
  | error f => rfl

/-- Flags ask for levels, so what is no level comes from the variable. -/
theorem wanted_eq_error {setting : Option String} {f : LevelFault}
    (h : wanted quiet verbose setting = .error f) :
    quiet = false ∧ verbose = false ∧ levelFrom setting = .error f := by
  unfold wanted at h
  split at h
  · cases h
  split at h
  · cases h
  · rename_i hverbose hquiet
    exact ⟨by simpa using hquiet, by simpa using hverbose, h⟩

/-- **A configuration that fails changes nothing**, and it fails because the
variable, to which no flag was preferred, names something else. -/
theorem configure_eq_error {f : LevelFault} {next : Loggers}
    (h : configure quiet verbose s = .error f next) :
    next = s ∧ quiet = false ∧ verbose = false ∧ levelFrom s.setting = .error f := by
  rw [configure_eq] at h
  split at h
  · cases h
  · rename_i fault hwanted
    cases h
    exact ⟨rfl, wanted_eq_error hwanted⟩

/-! ## After a configuration -/

theorem level_marked (s : Loggers) (name : String) :
    level { s with configured := true } name = s.level name := rfl

theorem level_withHandler (s : Loggers) (name : String) :
    s.withHandler.level name = s.level name := by
  unfold withHandler
  split
  · rfl
  · rfl

theorem level_configuredTo (h : name ∈ governed) : (s.configuredTo n).level name = n := by
  rw [configuredTo, level_marked, level_withLevels]
  split
  · rfl
  · rename_i hknown
    obtain rfl : name = topName := (List.mem_cons.mp h).resolve_right hknown
    rw [level_withHandler, level_withLevel_self]

/-- The handler and the propagation go with the mark that levels were set. -/
structure Balanced (s : Loggers) : Prop where
  handlers : s.handlers = if s.configured then 1 else 0
  propagate : s.propagate = !s.configured

theorem balanced_marked (hhandlers : s.handlers = 1) (hpropagate : s.propagate = false) :
    Balanced { s with configured := true } :=
  ⟨hhandlers, hpropagate⟩

theorem Balanced.configuredTo (h : Balanced s) (n : Nat) : Balanced (s.configuredTo n) := by
  obtain ⟨hhandlers, hpropagate⟩ :=
    withLevels_frame (knownNames.map fullName) (s.withLevel topName n).withHandler n
  -- the handler is added if there was none, and is there already if levels were set before
  have hone : (s.withLevel topName n).withHandler.handlers = 1
      ∧ (s.withLevel topName n).withHandler.propagate = false := by
    obtain ⟨hbefore, hpassed⟩ := h
    unfold withHandler withLevel
    dsimp only
    cases hconfigured : s.configured with
    | true => simp_all
    | false => simp_all
  rw [Loggers.configuredTo]
  exact balanced_marked (hhandlers.trans hone.1) (hpropagate.trans hone.2)

/-! ## Runs -/

/-- Whether a configuration succeeds on a run. -/
def configures (s : Loggers) : List Step → Bool
  | [] => false
  | .configure quiet verbose :: more =>
    (s.step (.configure quiet verbose)).isOk
      || (s.after (.configure quiet verbose)).configures more
  | change :: more => (s.after change).configures more

theorem balanced_after (h : Balanced s) (change : Step) : Balanced (s.after change) := by
  obtain heq | ⟨value, heq⟩ | ⟨_, _, n, -, -, heq⟩ | ⟨name, n, -, heq⟩ := after_cases s change
  · rw [heq]
    exact h
  · rw [heq]
    exact ⟨h.handlers, h.propagate⟩
  · rw [heq]
    exact h.configuredTo n
  · rw [heq]
    exact ⟨h.handlers, h.propagate⟩

theorem balanced_run (h : Balanced s) (changes : List Step) : Balanced (s.run changes) := by
  induction changes generalizing s with
  | nil => exact h
  | cons change more ih => exact ih (balanced_after h change)

/-- The mark is there after a step if it was there before, or if the step is
a configuration that succeeds. -/
theorem configured_after (s : Loggers) (change : Step) :
    (s.after change).configured = (s.configured || s.configures [change]) := by
  cases change with
  | setting value => exact (Bool.or_false _).symm
  | configure quiet verbose =>
    show _ = (s.configured || ((s.step (.configure quiet verbose)).isOk || false))
    rw [isOk_step_configure, Bool.or_false]
    unfold after Step.perform
    dsimp only
    rw [configure_eq]
    cases wanted quiet verbose s.setting with
    | ok n => exact (Bool.or_true _).symm
    | error f => exact (Bool.or_false _).symm
  | get name =>
    show _ = (s.configured || false)
    obtain heq | ⟨value, heq⟩ | ⟨_, _, _, hname, -⟩ | ⟨_, _, -, heq⟩ := after_cases s (.get name)
    · rw [heq, Bool.or_false]
    · rw [heq, Bool.or_false]
    · cases hname
    · rw [heq, Bool.or_false]
      rfl

theorem configures_cons (s : Loggers) (change : Step) (more : List Step) :
    s.configures (change :: more) = (s.configures [change] || (s.after change).configures more) := by
  cases change with
  | setting value => rfl
  | configure quiet verbose =>
    show (_ || _) = ((_ || false) || _)
    rw [Bool.or_false]
  | get name => rfl

/-- **The mark tells whether a configuration has succeeded.** -/
theorem configured_run (s : Loggers) (changes : List Step) :
    (s.run changes).configured = (s.configured || s.configures changes) := by
  induction changes generalizing s with
  | nil => exact (Bool.or_false _).symm
  | cons change more ih =>
    rw [configures_cons, ← Bool.or_assoc, ← configured_after]
    exact ih (s.after change)

/-- Once levels were set, a step that is not a configuration which succeeds
keeps all of them. -/
theorem levels_after (hset : s.configured = true) {change : Step}
    (hnot : s.configures [change] = false) : (s.after change).levels = s.levels := by
  obtain heq | ⟨value, heq⟩ | ⟨quiet, verbose, n, rfl, hwanted, -⟩ | ⟨_, _, hunset, -⟩ :=
    after_cases s change
  · rw [heq]
  · rw [heq]
  · have hok : s.configures [.configure quiet verbose]
        = ((s.step (.configure quiet verbose)).isOk || false) := rfl
    rw [hok, isOk_step_configure, hwanted] at hnot
    cases hnot
  · rw [hset] at hunset
    cases hunset

/-- **Once levels were set, they stay** until a configuration succeeds. -/
theorem levels_run (hset : s.configured = true) (hnot : s.configures changes = false) :
    (s.run changes).levels = s.levels := by
  induction changes generalizing s with
  | nil => rfl
  | cons change more ih =>
    rw [configures_cons, Bool.or_eq_false_iff] at hnot
    have hmark : (s.after change).configured = true := by
      rw [configured_after, hset]
      rfl
    exact (ih hmark hnot.2).trans (levels_after hset hnot.1)

theorem run_append (s : Loggers) (before later : List Step) :
    s.run (before ++ later) = (s.run before).run later :=
  List.foldl_append ..

/-- The governed loggers have the level of the last configuration that
succeeded. -/
theorem level_run {before later : List Step}
    (hwanted : wanted quiet verbose (s.run before).setting = .ok n)
    (hnot : (s.run (before ++ [.configure quiet verbose])).configures later = false)
    (hname : name ∈ governed) :
    (s.run (before ++ .configure quiet verbose :: later)).level name = n := by
  have hafter : s.run (before ++ [.configure quiet verbose]) = (s.run before).configuredTo n := by
    rw [run_append]
    show (s.run before).after (.configure quiet verbose) = _
    unfold after Step.perform
    dsimp only
    rw [configure_eq, hwanted]
  rw [hafter] at hnot
  rw [List.append_cons, run_append, hafter, level, levels_run rfl hnot]
  exact level_configuredTo hname

/-! ## The names that are no levels -/

/-- The names that stand for something else than a level. -/
def otherNames : List String := ["BASIC_FORMAT", "_STYLES"]

theorem mem_otherNames_of_error {f : LevelFault} (h : levelNamed name = .error f) :
    name ∈ otherNames := by
  unfold levelNamed at h
  split at h <;> cases h
  · decide
  · decide

/-- **The loggers over any run** that starts with loggers that were not set:

* a configuration that fails, which it does only where there is no flag and
  the variable names something else than a level, leaves everything as it was;
* the top logger has no handler and passes its remarks on until a
  configuration succeeds, and has one handler and keeps its remarks ever
  after;
* from a configuration that succeeds up to the next one, the top logger and
  the loggers it knows have the level that it was asked for, whatever happens
  to the variable, whoever asks for a logger, and whatever levels they had
  before. -/
theorem run_keeps_levels (changes : List Step) :
    (∀ quiet verbose f next, configure quiet verbose (run {} changes) = .error f next →
      next = run {} changes ∧ quiet = false ∧ verbose = false
        ∧ nameIn (run {} changes).setting ∈ otherNames)
    ∧ (configures {} changes = false →
      (run {} changes).top.handlers = 0 ∧ (run {} changes).top.propagate = true)
    ∧ (configures {} changes = true →
      (run {} changes).top.handlers = 1 ∧ (run {} changes).top.propagate = false)
    ∧ ∀ before quiet verbose later n,
      changes = before ++ .configure quiet verbose :: later →
      wanted quiet verbose (run {} before).setting = .ok n →
      configures (run {} (before ++ [.configure quiet verbose])) later = false →
      ∀ name ∈ governed, (run {} changes).level name = n := by
  have hmark : (run {} changes).configured = configures {} changes := configured_run {} changes
  have hstart : Balanced {} := ⟨rfl, rfl⟩
  obtain ⟨hhandlers, hpropagate⟩ := balanced_run hstart changes
  rw [hmark] at hhandlers hpropagate
  refine ⟨fun quiet verbose f next h => ?_, fun hno => ?_, fun hyes => ?_, ?_⟩
  · obtain ⟨hnext, hquiet, hverbose, hlevel⟩ := configure_eq_error h
    exact ⟨hnext, hquiet, hverbose, mem_otherNames_of_error hlevel⟩
  · rw [hno] at hhandlers hpropagate
    exact ⟨hhandlers, hpropagate⟩
  · rw [hyes] at hhandlers hpropagate
    exact ⟨hhandlers, hpropagate⟩
  · rintro before quiet verbose later n rfl hwanted hnot name hname
    exact level_run hwanted hnot hname

/-- A run: a logger is asked for, a configuration succeeds, and then the
variable names the format of a remark; a logger is asked for again, and a
configuration fails. -/
def refusedRun : List Step :=
  [.get "cli", .setting (some "debug"), .configure false false,
    .setting (some " Basic_Format"), .get "glob", .configure false false]

/-- After that run the logger asked for first has the level of the
configuration, and another configuration fails and changes nothing. -/
theorem run_keeps_levels_refused :
    (run {} [.get "cli"]).level (fullName "cli") = 20
    ∧ (run {} refusedRun).level (fullName "cli") = 10
    ∧ (run {} refusedRun).top.handlers = 1 ∧ (run {} refusedRun).top.propagate = false
    ∧ ∃ f, configure false false (run {} refusedRun) = .error f (run {} refusedRun) := by
  obtain ⟨hfails, -, hhandler, hlevel⟩ := run_keeps_levels refusedRun
  have hdebug : wanted false false (run {} [.get "cli", .setting (some "debug")]).setting
      = .ok 10 := toOption_eq_some.mp (by decide +kernel)
  obtain ⟨hone, hkept⟩ := hhandler (by decide +kernel)
  refine ⟨by decide +kernel, ?_, hone, hkept, ?_⟩
  · exact hlevel [.get "cli", .setting (some "debug")] false false
      [.setting (some " Basic_Format"), .get "glob", .configure false false] 10 rfl hdebug
      (by decide +kernel) (fullName "cli") (by decide +kernel)
  · have hstep : ((run {} refusedRun).step (.configure false false)).isOk = false := by
      decide +kernel
    cases hlast : configure false false (run {} refusedRun) with
    | ok _ next =>
      rw [step, Step.perform, hlast] at hstep
      cases hstep
    | error f next => exact ⟨f, by rw [(hfails false false f next hlast).1]⟩

end ImportPolicy.Log.Loggers
