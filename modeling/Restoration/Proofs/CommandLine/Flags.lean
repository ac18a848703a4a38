/-
Flags and the variables that they stand for.

A setting that is given as a flag goes another way than one that is given
in the environment, and the two meet in the same field of the settings. So
both are followed to that field (`settingsFor_give`, `settingsFor_exported`),
and what they put into it is compared: two of the four flags mean what their
variables mean, a checkout does where its `~/` says nothing, and a domain
does unless it is empty (`flag_means_variable`).
-/
import Restoration.Proofs.CommandLine.Finding
import Restoration.Proofs.CommandLine.Reading

namespace Restoration

-- =========================================================== environment

namespace Environment

/-- A variable that is set has its value, and all others have theirs. -/
theorem bytes?_set (e : Environment) (name : String) (value : Bytes)
    (other : String) :
    (e.set [(name, value)]).bytes? other = if other = name then some value
      else e.bytes? other := by
  unfold bytes? set
  dsimp only
  by_cases h : other = name
  · rw [if_pos h, h]
    simp
  · rw [if_neg h, List.singleton_append, List.lookup_cons, beq_false_of_ne h]
    dsimp only
    induction e.bindings with
    | nil => rfl
    | cons binding bindings ih =>
        obtain ⟨n, v⟩ := binding
        by_cases hn : n = name
        · have hother : other ≠ n := fun heq => h (heq.trans hn)
          rw [List.filter_cons_of_neg (by simp [hn]), ih, List.lookup_cons,
            beq_false_of_ne hother]
        · rw [List.filter_cons_of_pos
              (by simp [List.lookup_cons, beq_false_of_ne hn]),
            List.lookup_cons, List.lookup_cons, ih]

/-- A variable that is set to a text has that text. -/
theorem text?_set (e : Environment) (name text other : String) :
    (e.set [(name, Utf8.encode text)]).text? other
      = if other = name then some text else e.text? other := by
  unfold text?
  rw [bytes?_set]
  by_cases h : other = name
  · rw [if_pos h, if_pos h, Option.bind_some, Utf8.decode?, Utf8.decode_encode]
    rfl
  · rw [if_neg h, if_neg h]

/-- Only HOME tells where the home directory is. -/
theorem home_set (e : Environment) {name : String} (value : Bytes)
    (h : name ≠ "HOME") :
    (e.set [(name, value)]).home = e.home := by
  unfold home
  rw [bytes?_set, if_neg h.symm]
  rfl

end Environment

namespace CommandLine

-- ================================================================= flags

/-- The flags that stand for a variable. -/
inductive Flag
  | inputDirectory
  | checkout
  | domain
  | python
  deriving DecidableEq, Repr

namespace Flag

/-- The option that a flag is. -/
def item : Flag → Item
  | .inputDirectory => .inputDirectory
  | .checkout => .checkout
  | .domain => .domain
  | .python => .python

/-- The variable that a flag stands for. -/
def variableName : Flag → String
  | .inputDirectory => "AENEAS_INPUT_DIR"
  | .checkout => "AENEAS_REPO_DIR"
  | .domain => "NGROK_DOMAIN"
  | .python => "AENEAS_PYTHON"

/-- A flag and its value, as they are written. -/
def written (f : Flag) (x : String) : List Bytes :=
  [Utf8.encode ("--" ++ f.item.name), Utf8.encode x]

/-- What a flag was given. -/
def value? (f : Flag) (o : Overrides) : Option String :=
  match f with
  | .inputDirectory => o.inputDirectory
  | .checkout => o.checkout
  | .domain => o.domain
  | .python => o.python

/-- The settings that are given when the flag is given too. -/
def give (f : Flag) (x : String) (o : Overrides) : Overrides :=
  match f with
  | .inputDirectory => { o with inputDirectory := some x }
  | .checkout => { o with checkout := some x }
  | .domain => { o with domain := some x }
  | .python => { o with python := some x }

/-- The world in which the variable is set. -/
def exported (f : Flag) (x : String) (w : World) : World :=
  { w with environment := w.environment.set [(f.variableName, Utf8.encode x)] }

/-- Settings with what a flag puts into them. -/
def fromFlag (f : Flag) (home : Option Path) (x : String)
    (s : Settings) : Settings :=
  match f with
  | .inputDirectory => { s with inputDirectory := expandHome home x }
  | .checkout => { s with checkout := .ofString x }
  | .domain => { s with tunnel := { s.tunnel with domain := some x } }
  | .python => { s with python := x }

/-- Settings with what its variable puts into them. -/
def fromVariable (f : Flag) (home : Option Path) (x : String)
    (s : Settings) : Settings :=
  match f with
  | .inputDirectory => { s with inputDirectory := expandHome home x }
  | .checkout => { s with checkout := expandHome home x }
  | .domain =>
    { s with tunnel := { s.tunnel with domain := (some x).filter (· ≠ "") } }
  | .python => { s with python := x }

/-- Whether a text is read alike as a flag and as its variable: a checkout
whose `~/` is not replaced, a domain that is not empty. -/
def ReadAlike (f : Flag) (home : Option Path) (x : String) : Prop :=
  match f with
  | .inputDirectory => True
  | .checkout => expandHome home x = .ofString x
  | .domain => x ≠ ""
  | .python => True

/-- A flag and its variable mean the same exactly for such texts. -/
theorem fromFlag_eq_iff {f : Flag} {home : Option Path} {x : String}
    {s : Settings} :
    f.fromFlag home x s = f.fromVariable home x s ↔ f.ReadAlike home x := by
  cases f with
  | inputDirectory => exact ⟨fun _ => trivial, fun _ => rfl⟩
  | python => exact ⟨fun _ => trivial, fun _ => rfl⟩
  | checkout =>
      constructor
      · intro h
        exact (congrArg Settings.checkout h).symm
      · intro h
        unfold fromFlag fromVariable
        dsimp only
        rw [show expandHome home x = _ from h]
  | domain =>
      constructor
      · intro h hempty
        rw [hempty] at h
        have hdomain : some "" = (some "").filter (· ≠ "") :=
          congrArg (fun s => s.tunnel.domain) h
        exact absurd hdomain (by decide)
      · intro h
        have hx : x ≠ "" := h
        have hfilter : (some x).filter (· ≠ "") = some x := by
          simp [Option.filter, hx]
        unfold fromFlag fromVariable
        dsimp only
        rw [hfilter]

end Flag

-- ============================================================== settings

variable {f : Flag} {x : String} {o : Overrides}

/-- A flag changes the settings as it says. -/
theorem settingsFor_give (w : World) :
    settingsFor w (f.give x o)
      = f.fromFlag w.environment.home x (settingsFor w o) := by
  cases f <;> rfl

/-- So does a variable, as long as the flag is not given. -/
theorem settingsFor_exported (w : World) (hnone : f.value? o = none) :
    settingsFor (f.exported x w) o
      = f.fromVariable w.environment.home x (settingsFor w o) := by
  have hhome : (f.exported x w).environment.home = w.environment.home :=
    Environment.home_set _ _ (by cases f <;> decide)
  have htext : (f.exported x w).environment.text?
      = fun name => if name = f.variableName then some x
        else w.environment.text? name :=
    funext fun name => Environment.text?_set _ _ _ name
  unfold settingsFor Settings.ofEnvironment
  rw [hhome, htext]
  cases f <;> simp only [Flag.value?] at hnone <;>
    simp [Overrides.apply, Settings.ofLookup, Flag.variableName,
      Flag.fromVariable, hnone]

-- ============================================================= arguments

/-- The job that arguments give. -/
def jobOf (arguments : List Bytes) : Except Ending Job :=
  (read false arguments).map fun found => .ofGiven found.1 found.2

/-- What is run is the job. -/
theorem run_of_job {arguments : List Bytes} {job : Job}
    (h : jobOf arguments = .ok job) (w : World) (files : Files) :
    run w files arguments = execute w files job := by
  unfold jobOf at h
  unfold run
  cases hread : read false arguments with
  | error e =>
      rw [hread] at h
      cases h
  | ok found =>
      rw [hread] at h
      cases h
      rfl

/-- The arguments of the command that serves. -/
def serving (arguments : List Bytes) : List Bytes :=
  Utf8.encode "serve" :: arguments

/-- The arguments behind `serve` are read as those of that command. -/
theorem jobOf_serving (arguments : List Bytes) :
    jobOf (serving arguments)
      = (readArguments .serve arguments).map (Job.ofGiven .serve) := by
  have hverb : Verb.ofName? (Utf8.lossy (Utf8.encode "serve"))
      = some .serve := by
    rw [Utf8.lossy_encode]
    decide
  unfold jobOf serving read
  dsimp only
  rw [hverb]
  dsimp only
  rw [if_neg Bool.false_ne_true]
  cases readArguments .serve arguments <;> rfl

/-- The job is to serve, with what was given, if they can be read. -/
theorem jobOf_serving_eq_ok_iff {arguments : List Bytes} {job : Job} :
    jobOf (serving arguments) = .ok job
      ↔ ∃ g, readArguments .serve arguments = .ok g ∧
        Job.ofGiven .serve g = job := by
  rw [jobOf_serving]
  cases readArguments .serve arguments with
  | error e => simp [Except.map]
  | ok g => simp [Except.map]

/-- An argument without a hyphen in front is a word. -/
theorem shape_of_ne {b : UInt8} (h : b ≠ hyphen) (rest : Bytes) :
    shape (b :: rest) = .word := by
  unfold shape
  split
  · rfl
  · rfl
  · rename_i heq
    cases heq
    exact absurd rfl h
  · rename_i heq
    cases heq
    exact absurd rfl h
  · rename_i heq
    cases heq
    rw [if_neg h]

/-- Two hyphens alone divide the options from the words. -/
theorem eq_of_shape_divider {b : Bytes} (h : shape b = .divider) :
    b = Utf8.encode "--" := by
  have hdivider : Utf8.encode "--" = [0x2D, 0x2D] := by with_unfolding_all rfl
  rw [hdivider]
  unfold shape at h
  split at h
  · cases h
  · cases h
  · rfl
  · cases h
  · split at h <;> cases h

/-- A text that does not start with a hyphen is a word. -/
theorem shape_encode (hx : x.toList.head? ≠ some '-') :
    shape (Utf8.encode x) = .word := by
  rw [Utf8.encode_eq_flatMap]
  cases hlist : x.toList with
  | nil => rfl
  | cons c cs =>
      have hc : c ≠ '-' := by
        intro heq
        rw [hlist, heq] at hx
        exact hx rfl
      rw [List.flatMap_cons]
      cases hbytes : String.utf8EncodeChar c with
      | nil => exact absurd hbytes (String.utf8EncodeChar_ne_nil)
      | cons b bytes =>
          rw [List.cons_append]
          apply shape_of_ne
          intro hb
          have hmem : b ∈ String.utf8EncodeChar c := by
            rw [hbytes]
            exact List.mem_cons_self
          rw [hb] at hmem
          rcases Utf8.toNat_of_mem_utf8EncodeChar hmem with heq | hge
          · exact hc (Char.toNat_inj.mp heq.symm)
          · exact absurd hge (by decide)

namespace Flag

/-- The name of a flag behind two hyphens names it. -/
theorem names (f : Flag) :
    Reading.Names .serve (Utf8.encode ("--" ++ f.item.name)) f.item none := by
  refine .inl ⟨Utf8.encode f.item.name, none, ?_, ?_⟩
  · cases f <;> with_unfolding_all rfl
  · cases f <;> with_unfolding_all rfl

/-- Each of these flags takes a value. -/
theorem takesValue_item (f : Flag) : f.item.takesValue = true := by
  cases f <;> rfl

/-- Any text is a value for it. -/
theorem readValue_item (f : Flag) (x : String) :
    readValue f.item (Utf8.encode x) = .ok (.text x) := by
  unfold readValue Utf8.decode?
  rw [Utf8.decode_encode]
  cases f <;> rfl

/-- What is given for it is what overrides the setting. -/
theorem text?_item (f : Flag) (g : Given) :
    g.text? f.item = f.value? (.ofGiven g) := by
  cases f <;> rfl

/-- Beside the flag the same job is given. -/
theorem ofGiven_beside {f : Flag} {x : String} {g g' : Given}
    (h : Reading.Beside f.item (.text x) g g') :
    Job.ofGiven .serve g'
      = .serve (f.give x (.ofGiven g))
        ⟨g.has .withoutTunnel, g.has .withoutPreparation⟩ := by
  have htext (i : Item) : g'.text? i = if i = f.item then some x
      else g.text? i := by
    unfold Given.text?
    by_cases hi : i = f.item
    · rw [if_pos hi, hi, h.here]
    · rw [if_neg hi, h.others i hi]
  have hhas (i : Item) (hi : i ≠ f.item) : g'.has i = g.has i := by
    unfold Given.has
    rw [h.others i hi]
  have hport : g'.port? .port = g.port? .port := by
    unfold Given.port?
    rw [h.others .port (by cases f <;> decide)]
  unfold Job.ofGiven
  dsimp only
  rw [hhas .withoutTunnel (by cases f <;> decide),
    hhas .withoutPreparation (by cases f <;> decide)]
  unfold Overrides.ofGiven
  simp only [htext, hport]
  cases f <;> simp [item, give]

end Flag

/-- Settings that no flag stands for. -/
structure SameUnflagged (s t : Settings) : Prop where
  matcher : s.matcher = t.matcher
  repository : s.repository = t.repository
  packages : s.packages = t.packages
  params : s.params = t.params
  token : s.tunnel.token = t.tunnel.token
  program : s.tunnel.program = t.tunnel.program

/-- Flags leave the settings alone that no flag stands for. -/
theorem sameUnflagged (w : World) (o : Overrides) :
    SameUnflagged (settingsFor w o) (.ofEnvironment w.environment) :=
  ⟨rfl, rfl, rfl, rfl, rfl, rfl⟩

/-- Arguments with one of these flags more are read as before, with the
text given. -/
theorem jobOf_inserted (f : Flag) (hx : x.toList.head? ≠ some '-')
    {before after : List Bytes} {options : Startup.Options}
    (hbefore : ∃ job, jobOf (serving before) = .ok job)
    (hopen : Utf8.encode "--" ∉ before)
    (hjob : jobOf (serving (before ++ after)) = .ok (.serve o options))
    (hnone : f.value? o = none) :
    jobOf (serving (before ++ f.written x ++ after))
      = .ok (.serve (f.give x o) options) := by
  obtain ⟨_, hbefore⟩ := hbefore
  obtain ⟨g₀, hbefore, -⟩ := jobOf_serving_eq_ok_iff.mp hbefore
  obtain ⟨g, hread, hgiven⟩ := jobOf_serving_eq_ok_iff.mp hjob
  cases hgiven
  have hlookup : g.lookup f.item = none := by
    refine (Reading.readArguments_sound hread).lookup_eq_none
      f.takesValue_item ?_ ?_
    · cases f <;> decide
    · exact (f.text?_item g).trans hnone
  have hdividers : ∀ b ∈ before, shape b ≠ .divider := by
    intro b hb hdivider
    exact hopen (eq_of_shape_divider hdivider ▸ hb)
  obtain ⟨g', hread', hbeside⟩ :=
    readArguments_inserted f.names f.takesValue_item
    (shape_encode hx) (f.readValue_item x) nofun hbefore hdividers hread hlookup
  rw [List.append_assoc]
  exact jobOf_serving_eq_ok_iff.mpr ⟨g', hread', Flag.ofGiven_beside hbeside⟩

/-- A flag is put among arguments that do not give it, and its variable is
set instead. Both runs go on with settings that differ from those without
the text in one field, the same for both, and the two settings are equal
exactly if the text is read alike as a flag and as a variable. -/
theorem flag_means_variable (f : Flag) (hx : x.toList.head? ≠ some '-')
    {before after : List Bytes} {options : Startup.Options}
    (hbefore : ∃ job, jobOf (serving before) = .ok job)
    (hopen : Utf8.encode "--" ∉ before)
    (hjob : jobOf (serving (before ++ after)) = .ok (.serve o options))
    (hnone : f.value? o = none) (w : World) (files : Files) :
    run w files (serving (before ++ f.written x ++ after))
      = serve w files (f.give x o) options
      ∧ run (f.exported x w) files (serving (before ++ after))
        = serve (f.exported x w) files o options
      ∧ settingsFor w (f.give x o)
        = f.fromFlag w.environment.home x (settingsFor w o)
      ∧ settingsFor (f.exported x w) o
        = f.fromVariable w.environment.home x (settingsFor w o)
      ∧ (settingsFor w (f.give x o) = settingsFor (f.exported x w) o
        ↔ f.ReadAlike w.environment.home x)
      ∧ SameUnflagged (settingsFor w (f.give x o))
        (.ofEnvironment w.environment) := by
  have hinserted := jobOf_inserted f hx hbefore hopen hjob hnone
  have hgive := settingsFor_give (f := f) (x := x) (o := o) w
  have hexported := settingsFor_exported (x := x) w hnone
  refine ⟨run_of_job hinserted w files,
    run_of_job hjob (f.exported x w) files, hgive,
    hexported, ?_, sameUnflagged w _⟩
  rw [hgive, hexported]
  exact Flag.fromFlag_eq_iff

/-- A world with a home directory. -/
def homeWorld : World :=
  { givenWorld "repo" with environment :=
    ⟨[("HOME", Utf8.encode "/root")], none⟩ }

/-- A checkout that says nothing about the home directory, between two other
options. -/
theorem flag_means_variable_model :
    settingsFor homeWorld
      { noOverrides with checkout := some "model", python := some "py" }
        = settingsFor (Flag.checkout.exported "model" homeWorld)
          { noOverrides with python := some "py" }
      ∧ ∀ files, run homeWorld files (serving [Utf8.encode "--no-tunnel",
          Utf8.encode "--repo-dir", Utf8.encode "model", Utf8.encode "--python",
          Utf8.encode "py"])
        = serve homeWorld files
          { noOverrides with checkout := some "model", python := some "py" }
          ⟨true, false⟩ := by
  have hmeans (files : Files) := flag_means_variable .checkout
    (x := "model") (o := { noOverrides with python := some "py" }) (by decide)
    ⟨_, show jobOf (serving [Utf8.encode "--no-tunnel"])
      = .ok (.serve noOverrides ⟨true, false⟩) by with_unfolding_all rfl⟩
    (by decide +kernel)
    (show jobOf (serving ([Utf8.encode "--no-tunnel"]
        ++ [Utf8.encode "--python", Utf8.encode "py"]))
      = .ok (.serve { noOverrides with python := some "py" } ⟨true, false⟩) by
        with_unfolding_all rfl) rfl homeWorld files
  refine ⟨?_, fun files => (hmeans files).1⟩
  obtain ⟨-, -, -, -, hiff, -⟩ := hmeans givenFiles
  exact hiff.mpr (by with_unfolding_all rfl)

/-- A flag alone gives the settings that its variable alone gives. -/
def Flag.MeansVariable (f : Flag) : Prop :=
  ∀ (w : World) (x : String) (o : Overrides) (options : Startup.Options),
    x.toList.head? ≠ some '-' →
    jobOf (serving (f.written x)) = .ok (.serve o options) →
    settingsFor w o = settingsFor (f.exported x w) noOverrides

/-- A checkout below the home directory is not found there when a flag gives
it, and an empty domain is a domain when a flag gives it. -/
theorem flag_apart_from_variable :
    ¬ Flag.checkout.MeansVariable ∧ ¬ Flag.domain.MeansVariable := by
  constructor
  · intro hmeans
    have hsame := congrArg Settings.checkout (hmeans homeWorld "~/model"
      { noOverrides with checkout := some "~/model" } ⟨false, false⟩ (by decide)
      (by with_unfolding_all rfl))
    have hvariable : (settingsFor (Flag.checkout.exported "~/model" homeWorld)
        noOverrides).checkout = .ofString "/root/model" := by
      with_unfolding_all rfl
    have hflag : Path.ofString "~/model" = _ := hsame
    rw [hvariable] at hflag
    exact absurd hflag (by decide +kernel)
  · intro hmeans
    have hsame := congrArg (fun s => s.tunnel.domain) (hmeans homeWorld ""
      { noOverrides with domain := some "" } ⟨false, false⟩ (by decide)
      (by with_unfolding_all rfl))
    have hvariable : (settingsFor (Flag.domain.exported "" homeWorld)
        noOverrides).tunnel.domain = none := by
      with_unfolding_all rfl
    have hflag : some "" = _ := hsame
    rw [hvariable] at hflag
    cases hflag

end CommandLine

end Restoration
