/-
**A rendering with notes is the rendering.**

With its limits kept, a rendering that keeps a journal gives what the plain one gives, and its notes
account for all output and all loop runs. With its limits lifted it does the same up to the first note
that the limits do not allow; there the plain rendering fails.

* `Fits` — the limits allow what is noted.
* `Tells`, `Faithful` — what the notes of a run tell of it.
* `Faithful.bind`, `Faithful.frame` — one run after the other, and what its notes do not touch.
* `faithful_node` — the notes of a node.
* `faithful_runParts`, `tells_journal` — the notes of all parts of a template.
* `render_eq_journaled`, `html_of_render` — a rendering with notes gives what the plain one gives, and
  what it shows is noted.
-/

import ReactiveView.Proofs.Render.Noting
import ReactiveView.Proofs.Render.Parts

namespace ReactiveView.Render

variable {σ α β : Type}

/-! ### Limits -/

/-- **The limits allow what is noted**: the number of loop runs, and the output of each part. -/
structure Fits (config : Config) (entries : List Entry) : Prop where
  runs : turns entries ≤ config.maxIterations
  output : ∀ part, bytes (ofPart part entries) ≤ config.maxOutputLength

/-- The error of an event that the limits do not allow. -/
def overrun (config : Config) : Event → Error
  | .print _ _ =>
    .eval ("output too large: more than " ++ toString config.maxOutputLength ++ " bytes")
  | _ => .eval ("loop too large: more than " ++ toString config.maxIterations ++ " iterations")

section

variable {config : Config} {entries : List Entry} {index : Nat}

theorem fits_nil : Fits config [] := ⟨Nat.zero_le _, fun _ => Nat.zero_le _⟩

theorem bytes_ofPart_append (part : Nat) (entry : Entry) :
    bytes (ofPart part (entries ++ [entry])) =
      bytes (ofPart part entries) + if entry.part = part then bytes [entry] else 0 := by
  rw [ofPart_append, bytes_append, Nat.add_left_cancel_iff]
  split
  · next same => rw [ofPart_eq_self (by simpa using same)]
  · next other => rw [ofPart_eq_nil (by simpa using other)]; rfl

/-- An entry that puts out nothing fits if no loop run is one too many. -/
theorem Fits.snoc (fits : Fits config entries) {entry : Entry} (silent : bytes [entry] = 0)
    (few : turns (entries ++ [entry]) ≤ config.maxIterations) :
    Fits config (entries ++ [entry]) := by
  refine ⟨few, fun part => ?_⟩
  rw [bytes_ofPart_append, silent, ite_self]
  exact fits.output part

theorem Fits.value (fits : Fits config entries) (expr : Expr) (value : Value) :
    Fits config (entries ++ [⟨index, .value expr value⟩]) :=
  fits.snoc rfl (by rw [turns_append]; exact fits.runs)

theorem Fits.turn_iff (fits : Fits config entries) :
    Fits config (entries ++ [⟨index, .turn⟩]) ↔ turns entries + 1 ≤ config.maxIterations := by
  have more : turns (entries ++ [⟨index, .turn⟩]) = turns entries + 1 := turns_append
  rw [← more]
  exact ⟨Fits.runs, fits.snoc rfl⟩

theorem Fits.print_iff (fits : Fits config entries) {outlet : Node} {piece : Piece} :
    Fits config (entries ++ [⟨index, .print outlet piece⟩]) ↔
      bytes (ofPart index entries) + piece.html.utf8ByteSize ≤ config.maxOutputLength := by
  constructor
  · intro more
    have here := more.output index
    rwa [bytes_ofPart_append, if_pos rfl, bytes_print] at here
  · refine fun within => ⟨by rw [turns_append]; exact fits.runs, fun part => ?_⟩
    rw [bytes_ofPart_append, bytes_print]
    split
    · next same => exact same ▸ within
    · exact fits.output part

end

/-! ### What notes tell -/

/-- A run from which only fair notes come, and after which, if it succeeds, something is known. -/
structure Sound (fair : Entry → Prop) (after : α → Pass σ → List Entry → Prop) (front : List Entry)
    (outcome : Except Error α × Pass σ × List Entry) : Prop where
  fair : ∀ entry ∈ outcome.2.2, fair entry
  ends : ∀ value, outcome.1 = .ok value → after value outcome.2.1 (front ++ outcome.2.2)

/-- How a run within the limits compares to the same run without limits, after the notes in front: they
are the same, or the first entry that the limits do not allow is where the run within the limits has
failed. -/
inductive Limited (config : Config) (fault : Entry → Error → Prop) (front : List Entry)
    (kept lifted : Except Error α × Pass σ × List Entry) : Prop
  | fits (same : kept = lifted) (fits : Fits config (front ++ kept.2.2))
  | overruns {error : Error} {entry : Entry} (failed : kept.1 = .error error)
    (fault : fault entry error) (fits : Fits config (front ++ kept.2.2))
    (beyond : ¬ Fits config (front ++ (kept.2.2 ++ [entry]))) (goes : kept.2.2 ++ [entry] <+: lifted.2.2)

/-- **What the notes of a run tell of it**, after the notes in front. -/
structure Tells (config : Config) (fair : Entry → Prop) (fault : Entry → Error → Prop)
    (after : α → Pass σ → List Entry → Prop) (front : List Entry) (plain : Except Error α × Pass σ)
    (kept lifted : Except Error α × Pass σ × List Entry) : Prop where
  same : (kept.1, kept.2.1) = plain
  sound : Sound fair after front kept
  free : Sound fair after front lifted
  limited : Fits config front → Limited config fault front kept lifted

/-- **A run whose notes tell of it**, from every state of a kind on. -/
def Faithful (config : Config) (fair : Entry → Prop) (fault : Entry → Error → Prop)
    (before : Pass σ → List Entry → Prop) (after : α → Pass σ → List Entry → Prop) (run : Eval σ α)
    (noted : Bounds → Journaled σ α) : Prop :=
  ∀ pass front, before pass front →
    Tells config fair fault after front (run pass) (noted .kept pass) (noted .lifted pass)

section

variable {config : Config} {fair : Entry → Prop} {fault : Entry → Error → Prop} {front : List Entry}
  {pass : Pass σ}

/-- A run with notes gives what the plain run gives, if its steps do. -/
theorem same_bind {plain : Eval σ α} {following : α → Eval σ β} {run : Journaled σ α}
    {next : α → Journaled σ β} (same : ((run pass).1, (run pass).2.1) = plain pass)
    (rest : ∀ {value reached entries}, run pass = (.ok value, reached, entries) →
      ((next value reached).1, (next value reached).2.1) = following value reached) :
    (((run >>= next) pass).1, ((run >>= next) pass).2.1) = (plain >>= following) pass := by
  rw [Eval.bind_apply, ← same]
  rcases ran : run pass with ⟨error | value, reached, entries⟩
  · rw [Journaled.bind_of_error ran]
  · rw [Journaled.bind_of_ok ran]
    exact rest ran

theorem Sound.bind {after : α → Pass σ → List Entry → Prop} {last : β → Pass σ → List Entry → Prop}
    {run : Journaled σ α} {next : α → Journaled σ β} (sound : Sound fair after front (run pass))
    (rest : ∀ value reached entries, after value reached entries →
      Sound fair last entries (next value reached)) : Sound fair last front ((run >>= next) pass) := by
  rcases ran : run pass with ⟨error | value, reached, entries⟩
  · rw [ran] at sound
    rw [Journaled.bind_of_error ran]
    exact ⟨sound.fair, nofun⟩
  · rw [ran] at sound
    have going := rest value reached _ (sound.ends value rfl)
    rw [Journaled.bind_of_ok ran]
    refine ⟨List.forall_mem_append.mpr ⟨sound.fair, going.fair⟩, fun value ok => ?_⟩
    rw [← List.append_assoc]
    exact going.ends value ok

theorem Limited.bind {run free : Journaled σ α} {next others : α → Journaled σ β}
    (limited : Limited config fault front (run pass) (free pass))
    (rest : ∀ {value reached entries}, run pass = (.ok value, reached, entries) →
      Fits config (front ++ entries) →
      Limited config fault (front ++ entries) (next value reached) (others value reached)) :
    Limited config fault front ((run >>= next) pass) ((free >>= others) pass) := by
  cases limited with
  | fits same fits =>
    rcases ran : run pass with ⟨error | value, reached, entries⟩
    · rw [ran] at same fits
      rw [Journaled.bind_of_error ran, Journaled.bind_of_error same.symm]
      exact .fits rfl fits
    · rw [ran] at same fits
      rw [Journaled.bind_of_ok ran, Journaled.bind_of_ok same.symm]
      cases rest ran fits with
      | fits again further =>
        rw [List.append_assoc] at further
        exact .fits (by rw [again]) further
      | overruns failed fault further beyond goes =>
        rw [List.append_assoc] at further beyond
        refine .overruns failed fault further ?_ ?_
        · rwa [List.append_assoc]
        · rw [List.append_assoc]
          exact (List.prefix_append_right_inj entries).mpr goes
  | overruns failed fault fits beyond goes =>
    -- the run within the limits is over, the other one may go on
    rcases ran : run pass with ⟨error | value, reached, entries⟩
    · rw [ran] at failed fits beyond goes
      rw [Journaled.bind_of_error ran]
      refine .overruns (congrArg Except.error (Except.error.inj failed)) fault fits beyond (goes.trans ?_)
      rcases further : free pass with ⟨wrong | value, last, more⟩
      · rw [Journaled.bind_of_error further]
      · rw [Journaled.bind_of_ok further]
        exact List.prefix_append _ _
    · rw [ran] at failed
      cases failed

end

namespace Faithful

variable {config : Config} {fair : Entry → Prop} {fault : Entry → Error → Prop}
  {before : Pass σ → List Entry → Prop} {after : α → Pass σ → List Entry → Prop} {run : Eval σ α}
  {noted : Bounds → Journaled σ α}

theorem imp {wider : Entry → Prop} {blame : Entry → Error → Prop}
    {earlier : Pass σ → List Entry → Prop} {weaker : α → Pass σ → List Entry → Prop}
    (faithful : Faithful config fair fault before after run noted)
    (widen : ∀ entry, fair entry → wider entry)
    (blamed : ∀ entry error, fault entry error → blame entry error)
    (here : ∀ pass front, earlier pass front → before pass front)
    (weaken : ∀ value pass entries, after value pass entries → weaker value pass entries) :
    Faithful config wider blame earlier weaker run noted := by
  intro pass front began
  have tells := faithful pass front (here pass front began)
  have widened {outcome : Except Error α × Pass σ × List Entry}
      (sound : Sound fair after front outcome) : Sound wider weaker front outcome :=
    ⟨fun entry member => widen entry (sound.fair entry member),
      fun value ok => weaken _ _ _ (sound.ends value ok)⟩
  refine ⟨tells.same, widened tells.sound, widened tells.free, fun fits => ?_⟩
  cases tells.limited fits with
  | fits same fits => exact .fits same fits
  | overruns failed fault fits beyond goes => exact .overruns failed (blamed _ _ fault) fits beyond goes

/-- What is known afterwards may be weakened. -/
theorem weaken {weaker : α → Pass σ → List Entry → Prop}
    (faithful : Faithful config fair fault before after run noted)
    (weaken : ∀ value pass entries, after value pass entries → weaker value pass entries) :
    Faithful config fair fault before weaker run noted :=
  faithful.imp (fun _ fair => fair) (fun _ _ blamed => blamed) (fun _ _ here => here) weaken

/-- A step without notes. -/
theorem doing {step : Eval σ α}
    (ends : ∀ pass front, before pass front → ∀ value, (step pass).1 = .ok value →
      after value (step pass).2 front) :
    Faithful config fair fault before after step fun _ => Journaled.doing step := by
  intro pass front here
  have sound : Sound fair after front (Journaled.doing step pass) :=
    ⟨nofun, fun value ok => (List.append_nil front).symm ▸ ends pass front here value ok⟩
  exact ⟨rfl, sound, sound, fun fits => .fits rfl ((List.append_nil front).symm ▸ fits)⟩

theorem pure {value : α} (ends : ∀ pass front, before pass front → after value pass front) :
    Faithful config fair fault before after (Pure.pure value) fun _ => Pure.pure value :=
  doing fun _ _ here _ same => Except.ok.inj same ▸ ends _ _ here

/-- **One run after the other.** -/
theorem bind {last : β → Pass σ → List Entry → Prop} {next : α → Eval σ β}
    {others : Bounds → α → Journaled σ β}
    (faithful : Faithful config fair fault before after run noted)
    (rest : ∀ value, Faithful config fair fault (after value) last (next value)
      fun bounds => others bounds value) :
    Faithful config fair fault before last (run >>= next)
      fun bounds => noted bounds >>= others bounds := by
  intro pass front here
  have tells := faithful pass front here
  have going {value : α} {reached : Pass σ} {entries : List Entry}
      (ran : noted .kept pass = (.ok value, reached, entries)) :
      Tells config fair fault last (front ++ entries) (next value reached)
        (others .kept value reached) (others .lifted value reached) := by
    have sound := tells.sound
    rw [ran] at sound
    exact rest value reached _ (sound.ends value rfl)
  exact ⟨same_bind tells.same fun ran => (going ran).same,
    tells.sound.bind fun value reached entries ended => (rest value _ _ ended).sound,
    tells.free.bind fun value reached entries ended => (rest value _ _ ended).free,
    fun fits => (tells.limited fits).bind fun ran fits => (going ran).limited fits⟩

/-- **What the notes of a run do not touch** is still there after it. -/
theorem frame (keep : List Entry → Prop)
    (faithful : Faithful config fair fault before after run noted)
    (stable : ∀ entries more, keep entries → (∀ entry ∈ more, fair entry) → keep (entries ++ more)) :
    Faithful config fair fault (fun pass entries => before pass entries ∧ keep entries)
      (fun value pass entries => after value pass entries ∧ keep entries) run noted := by
  rintro pass front ⟨here, kept⟩
  have tells := faithful pass front here
  have framed {outcome : Except Error α × Pass σ × List Entry}
      (sound : Sound fair after front outcome) :
      Sound fair (fun value pass entries => after value pass entries ∧ keep entries) front outcome :=
    ⟨sound.fair, fun value ok => ⟨sound.ends value ok, stable front _ kept sound.fair⟩⟩
  exact ⟨tells.same, framed tells.sound, framed tells.free, tells.limited⟩

end Faithful

/-! ### The notes of a node -/

/-- An entry that a node may make while it runs under a number. -/
structure FairIn (index : Nat) (node : Node) (entry : Entry) : Prop where
  part : entry.part = index
  puts : ∀ {outlet piece}, entry.event = .print outlet piece →
    outlet ∈ node.outlets ∧ outlet.Puts piece

/-- **Accounts that are in order**: the output of the part that is running, its size and the number of
loop runs are those that are noted. -/
def Accounts (index : Nat) (pass : Pass σ) (entries : List Entry) : Prop :=
  pass.books = ((pieces (ofPart index entries)).reverse, bytes (ofPart index entries), turns entries)

section

variable {config : Config} {index : Nat}

theorem Accounts.size {pass : Pass σ} {entries : List Entry} (accounts : Accounts index pass entries) :
    pass.size = bytes (ofPart index entries) := congrArg (fun books => books.2.1) accounts

theorem Accounts.iterations {pass : Pass σ} {entries : List Entry}
    (accounts : Accounts index pass entries) : pass.iterations = turns entries :=
  congrArg (fun books => books.2.2) accounts

theorem Accounts.snoc {pass reached : Pass σ} {entries : List Entry} {event : Event}
    (accounts : Accounts index pass entries)
    (books : reached.books = ((pieces [⟨index, event⟩]).reverse ++ pass.pieces,
      pass.size + bytes [⟨index, event⟩], pass.iterations + turns [⟨index, event⟩])) :
    Accounts index reached (entries ++ [⟨index, event⟩]) := by
  have own : ofPart index [⟨index, event⟩] = [⟨index, event⟩] := ofPart_eq_self (by simp)
  rw [Accounts, books, ofPart_append, own, pieces_append, bytes_append, turns_append,
    List.reverse_append, accounts.size, accounts.iterations]
  exact congrArg (fun books => (_ ++ books.1, _)) accounts

/-- How a first entry too many shows while a node runs under a number. -/
def Blames (config : Config) (index : Nat) (entry : Entry) (error : Error) : Prop :=
  entry.part = index ∧ error = overrun config entry.event

/-- The value of an expression, noted. -/
theorem Faithful.value {node : Node} {run : Eval σ Value} {noted : Bounds → Journaled σ Value}
    (faithful : Faithful config (FairIn index node) (Blames config index) (Accounts index)
      (fun _ => Accounts index) run noted) (expr : Expr) :
    Faithful config (FairIn index node) (Blames config index) (Accounts index) (fun _ => Accounts index)
      run fun bounds => Journaled.noted index expr (noted bounds) := by
  rw [← bind_pure run]
  refine faithful.bind fun value pass front accounts => ?_
  have sound : Sound (FairIn index node) (fun _ => Accounts index) front
      (Except.ok value, pass, [⟨index, .value expr value⟩]) := by
    refine ⟨fun entry member => ?_, fun _ _ => accounts.snoc rfl⟩
    rw [List.mem_singleton.mp member]
    exact ⟨rfl, nofun⟩
  exact ⟨rfl, sound, sound, fun fits => .fits rfl (fits.value expr value)⟩

/-- **A step that a limit is about** either stops, or goes on as without limits and is noted. -/
theorem Faithful.checked {node : Node} {within free : Eval σ Unit} {event : Event}
    {stopped reached : Pass σ → Pass σ} (beyond : Pass σ → Prop) [DecidablePred beyond]
    (ran : ∀ pass, within pass =
      if beyond pass then (.error (overrun config event), stopped pass) else (.ok (), reached pass))
    (goes : ∀ pass, free pass = (.ok (), reached pass)) (fair : FairIn index node ⟨index, event⟩)
    (books : ∀ pass, (reached pass).books = ((pieces [⟨index, event⟩]).reverse ++ pass.pieces,
      pass.size + bytes [⟨index, event⟩], pass.iterations + turns [⟨index, event⟩]))
    (limit : ∀ pass entries, Accounts index pass entries → Fits config entries →
      (Fits config (entries ++ [⟨index, event⟩]) ↔ ¬ beyond pass)) :
    Faithful config (FairIn index node) (Blames config index) (Accounts index)
      (fun _ => Accounts index) within
      fun bounds => Journaled.checked bounds index within free event := by
  intro pass front accounts
  have lifted : Journaled.checked .lifted index within free event pass =
      (.ok (), reached pass, [⟨index, event⟩]) := by
    have begun : Journaled.doing free pass = (.ok (), reached pass, []) := by
      rw [Journaled.doing, goes]
    exact Journaled.bind_of_ok begun
  have noted : Sound (FairIn index node) (fun _ => Accounts index) front
      (Except.ok (), reached pass, [⟨index, event⟩]) :=
    ⟨fun _ member => List.mem_singleton.mp member ▸ fair, fun _ _ => accounts.snoc (books pass)⟩
  by_cases stops : beyond pass
  · have kept : Journaled.checked .kept index within free event pass =
        (.error (overrun config event), stopped pass, []) := by
      have begun : Journaled.doing within pass =
          (.error (overrun config event), stopped pass, []) := by
        rw [Journaled.doing, ran, if_pos stops]
      exact Journaled.bind_of_error begun
    simp only [kept, lifted, ran, if_pos stops]
    refine ⟨rfl, ⟨nofun, nofun⟩, noted, fun fits => .overruns rfl ⟨rfl, rfl⟩ ?_ ?_ List.prefix_rfl⟩
    · rwa [List.append_nil]
    · exact fun more => (limit _ _ accounts fits).mp more stops
  · have kept : Journaled.checked .kept index within free event pass =
        (.ok (), reached pass, [⟨index, event⟩]) := by
      have begun : Journaled.doing within pass = (.ok (), reached pass, []) := by
        rw [Journaled.doing, ran, if_neg stops]
      exact Journaled.bind_of_ok begun
    simp only [kept, lifted, ran, if_neg stops]
    exact ⟨rfl, noted, noted, fun fits => .fits rfl ((limit _ _ accounts fits).mpr stops)⟩

theorem Faithful.put {node outlet : Node} {piece : Piece} (here : outlet ∈ node.outlets)
    (puts : outlet.Puts piece) :
    Faithful (σ := σ) config (FairIn index node) (Blames config index) (Accounts index)
      (fun _ => Accounts index) (Eval.push config piece)
      fun bounds => Journaled.put bounds index config outlet piece := by
  refine .checked (fun pass => pass.size + piece.html.utf8ByteSize > config.maxOutputLength)
    (Eval.push_apply config piece) (fun _ => rfl) ⟨rfl, ?_⟩ (fun pass => ?_)
    fun pass entries accounts fits => ?_
  · rintro _ _ same
    cases same
    exact ⟨here, puts⟩
  · rw [bytes_print]
    rfl
  · rw [fits.print_iff, ← accounts.size, not_lt]

theorem Faithful.count {node : Node} :
    Faithful (σ := σ) config (FairIn index node) (Blames config index) (Accounts index)
      (fun _ => Accounts index) (Eval.count config)
      fun bounds => Journaled.count bounds index config := by
  refine .checked (fun pass => pass.iterations + 1 > config.maxIterations) (Eval.count_apply config)
    (fun _ => rfl) ⟨rfl, nofun⟩ (fun _ => rfl) fun pass entries accounts fits => ?_
  rw [fits.turn_iff, ← accounts.iterations, not_lt]

/-- **The notes of a node tell of it.** -/
theorem faithful_node (scope : Scope σ) (config : Config) (node : Node) :
    Faithful config (FairIn index node) (Blames config index) (Accounts index)
      (fun _ => Accounts index) (Eval.node scope config node)
      fun bounds => Journaled.node bounds index config scope node := by
  have law : Journaled.Law index scope config (fun _ => True) (fun _ => True)
      (fun outlet piece => outlet ∈ node.outlets ∧ outlet.Puts piece)
      fun post run noted => Faithful config (FairIn index node) (Blames config index) (Accounts index)
        (fun value pass entries => post value ∧ Accounts index pass entries) run noted :=
    { upheld := .trivial scope config
      doing := fun idle upholds => .doing fun pass front accounts value ok =>
        ⟨(upholds pass trivial).2 value ok, (idle pass).trans accounts⟩
      bind := fun first rest => first.bind fun value pass front ended =>
        rest value ended.1 pass front ended.2
      imp := fun faithful weaken => faithful.weaken fun value _ _ ended => ⟨weaken value ended.1, ended.2⟩
      value := fun {expr _ _} faithful =>
        ((faithful.weaken fun _ _ _ ended => ended.2).value expr).weaken
          fun _ _ _ accounts => ⟨trivial, accounts⟩
      put := fun outlet => (Faithful.put outlet.1 outlet.2).weaken fun _ _ _ accounts => ⟨trivial, accounts⟩
      count := Faithful.count.weaken fun _ _ _ accounts => ⟨trivial, accounts⟩ }
  exact (law.node node (fun _ _ => trivial) fun _ here _ puts => ⟨here, puts⟩).weaken
    fun _ _ _ ended => ended.2

end

/-! ### The notes of some parts -/

/-- A state in which no part from this number on has run yet. -/
structure Ready (index : Nat) (pass : Pass σ) (entries : List Entry) : Prop where
  early : ∀ entry ∈ entries, entry.part < index
  iterations : pass.iterations = turns entries

/-- An entry that one of some parts may make, the first of which has this number. -/
def FairFrom (index : Nat) (parts : List Part) (entry : Entry) : Prop :=
  ∃ offset part, parts[offset]? = some (.dynamic part) ∧ FairIn (index + offset) part.node entry

/-- How a first entry too many shows: the rendering fails in its part. -/
def BlamesFrom (config : Config) (index : Nat) (parts : List Part) (entry : Entry) (error : Error) :
    Prop :=
  ∃ offset part, parts[offset]? = some (.dynamic part) ∧ entry.part = index + offset ∧
    error = .render entry.part part.source (overrun config entry.event)

/-- **The slots are filled with the pieces that are noted.** -/
def Filled (index : Nat) (parts : List Part) (slots : List Slot) (entries : List Entry) : Prop :=
  ∀ ⦃offset part slot html⦄, parts[offset]? = some (.dynamic part) → slots[offset]? = some slot →
    slot.html = some html → html = Piece.join (pieces (ofPart (index + offset) entries))

section

variable {config : Config} {index : Nat} {first : Part} {rest : List Part} {entries : List Entry}

theorem Ready.mono {pass : Pass σ} (ready : Ready index pass entries) : Ready (index + 1) pass entries :=
  ⟨fun entry member => Nat.lt_succ_of_lt (ready.early entry member), ready.iterations⟩

theorem FairFrom.cons {entry : Entry} :
    FairFrom (index + 1) rest entry → FairFrom index (first :: rest) entry := by
  rintro ⟨offset, part, there, fair⟩
  exact ⟨offset + 1, part, there, by rwa [Nat.add_right_comm] at fair⟩

theorem BlamesFrom.cons {entry : Entry} {error : Error} :
    BlamesFrom config (index + 1) rest entry error →
      BlamesFrom config index (first :: rest) entry error := by
  rintro ⟨offset, part, there, number, same⟩
  exact ⟨offset + 1, part, there, by omega, same⟩

theorem FairFrom.le {parts : List Part} {entry : Entry} (fair : FairFrom index parts entry) :
    index ≤ entry.part := by
  obtain ⟨offset, _, _, fair⟩ := fair
  exact fair.part ▸ Nat.le_add_right _ _

theorem Filled.nil {slots : List Slot} : Filled index [] slots entries := by
  intro offset part slot html there
  cases there

theorem Filled.cons {slot : Slot} {slots : List Slot}
    (here : ∀ {part html}, first = .dynamic part → slot.html = some html →
      html = Piece.join (pieces (ofPart index entries)))
    (filled : Filled (index + 1) rest slots entries) :
    Filled index (first :: rest) (slot :: slots) entries := by
  rintro (_ | offset) part other html there found new
  · cases found
    exact here (Option.some.inj there) new
  · rw [show index + (offset + 1) = index + 1 + offset by omega]
    exact filled there found new

@[simp] theorem closing_state (source : String) (outcome : Except Error Unit × Pass σ × List Entry) :
    (Journaled.closing index source outcome).2 = outcome.2 := by
  obtain ⟨error | _, pass, entries⟩ := outcome <;> rfl

theorem closing_error {source : String} {outcome : Except Error Unit × Pass σ × List Entry}
    {error : Error} (failed : outcome.1 = .error error) :
    (Journaled.closing index source outcome).1 = .error (.render index source error) := by
  obtain ⟨_, pass, entries⟩ := outcome
  cases failed
  rfl

/-- The end of a part is sound, if the end of its node is. -/
theorem Sound.closing {front : List Entry} {source : String} {node : Node}
    {outcome : Except Error Unit × Pass σ × List Entry} (early : ∀ entry ∈ front, entry.part < index)
    (sound : Sound (FairIn index node) (fun _ => Accounts index) front outcome) :
    Sound (FairIn index node) (fun output pass entries => Ready (index + 1) pass entries ∧
      output.pieces = pieces (ofPart index entries)) front (Journaled.closing index source outcome) := by
  refine ⟨by rw [closing_state]; exact sound.fair, fun output ok => ?_⟩
  obtain ⟨error | _, pass, entries⟩ := outcome
  · cases ok
  · cases ok
    have accounts : Accounts index pass (front ++ entries) := sound.ends () rfl
    refine ⟨⟨List.forall_mem_append.mpr ⟨fun entry member => ?_, fun entry member => ?_⟩,
      accounts.iterations⟩, ?_⟩
    · exact Nat.lt_succ_of_lt (early entry member)
    · exact (sound.fair entry member).part ▸ Nat.lt_succ_self index
    · exact (congrArg (fun books => books.1.reverse) accounts).trans (List.reverse_reverse _)

/-- **The notes of a part tell of it.** -/
theorem faithful_runPart (scope : Scope σ) (part : DynamicPart) (rendersChildren : Bool) :
    Faithful config (FairIn index part.node)
      (fun entry error => entry.part = index ∧
        error = .render entry.part part.source (overrun config entry.event))
      (Ready index)
      (fun output pass entries => Ready (index + 1) pass entries ∧
        output.pieces = pieces (ofPart index entries))
      (inPart index part.source (runPart scope config rendersChildren part.node))
      fun bounds => Journaled.runPart bounds index config scope rendersChildren part := by
  intro pass front ready
  have none : ofPart index front = [] :=
    ofPart_eq_nil fun entry member => Nat.ne_of_lt (ready.early entry member)
  have opened : Accounts index (pass.openPart rendersChildren) front := by
    rw [Accounts, none]
    exact congrArg (fun runs => ([], 0, runs)) ready.iterations
  have tells := faithful_node scope config part.node _ front opened
  simp only [Journaled.runPart]
  refine ⟨?_, tells.sound.closing ready.early, tells.free.closing ready.early, fun fits => ?_⟩
  · have same := tells.same
    beta_reduce at same
    rcases ran : Journaled.node .kept index config scope part.node (pass.openPart rendersChildren) with
      ⟨error | _, reached, entries⟩
    · rw [ran] at same
      rw [inPart, runPart_of_error same.symm]
      rfl
    · rw [ran] at same
      rw [inPart, runPart_of_ok same.symm]
      rfl
  · cases tells.limited fits with
    | fits same fits => exact .fits (congrArg _ same) (by rwa [closing_state])
    | overruns failed blamed fits beyond goes =>
      obtain ⟨number, rfl⟩ := blamed
      refine .overruns (closing_error failed) ⟨number, by rw [number]⟩ ?_ ?_ ?_
      · rwa [closing_state]
      · rwa [closing_state]
      · rwa [closing_state, closing_state]

/-- The notes of a part, as one of some parts. -/
theorem faithful_firstPart (scope : Scope σ) (part : DynamicPart) (rendersChildren : Bool) :
    Faithful config (FairFrom index (.dynamic part :: rest))
      (BlamesFrom config index (.dynamic part :: rest)) (Ready index)
      (fun output pass entries => Ready (index + 1) pass entries ∧
        output.pieces = pieces (ofPart index entries))
      (inPart index part.source (runPart scope config rendersChildren part.node))
      fun bounds => Journaled.runPart bounds index config scope rendersChildren part :=
  (faithful_runPart scope part rendersChildren).imp (fun _ fair => ⟨0, part, rfl, fair⟩)
    (fun _ _ blamed => ⟨0, part, rfl, blamed⟩) (fun _ _ ready => ready) fun _ _ _ ended => ended

/-- The notes of later parts, as some of all parts. -/
theorem Faithful.later {before earlier : Pass σ → List Entry → Prop}
    {after : α → Pass σ → List Entry → Prop} {run : Eval σ α} {noted : Bounds → Journaled σ α}
    (faithful : Faithful config (FairFrom (index + 1) rest) (BlamesFrom config (index + 1) rest) before
      after run noted) (here : ∀ pass entries, earlier pass entries → before pass entries) :
    Faithful config (FairFrom index (first :: rest)) (BlamesFrom config index (first :: rest)) earlier
      after run noted :=
  faithful.imp (fun _ fair => fair.cons) (fun _ _ blamed => blamed.cons) here fun _ _ _ ended => ended

/-- **The notes of all parts tell of them**, and the slots are filled with what is noted. -/
theorem faithful_runParts (scope : Scope σ) (config : Config) (dense : Bool) (dirty : Dirty)
    (parts : List Part) (index : Nat) (dirtyLocals : NameSet) :
    Faithful config (FairFrom index parts) (BlamesFrom config index parts) (Ready index)
      (fun output _ entries => Filled index parts output.1 entries)
      (runParts scope config dense dirty index dirtyLocals parts)
      fun bounds => Journaled.runParts bounds config scope dense dirty index dirtyLocals parts := by
  induction parts generalizing index dirtyLocals with
  | nil => exact .pure fun _ _ _ => .nil
  | cons part rest ih =>
    cases part with
    | fixed text =>
      exact ((ih (index + 1) dirtyLocals).later fun _ _ => Ready.mono).bind fun _ =>
        .pure fun _ _ filled => filled.cons nofun
    | dynamic part =>
      unfold runParts Journaled.runParts
      by_cases affected : isAffected dense dirty dirtyLocals part = true
      · simp only [if_pos affected]
        refine (faithful_firstPart scope part true).bind fun output => ?_
        -- the parts after this one do not touch its output
        have framed := (ih (index + 1) (dirtyLocals.union part.locals)).frame
          (fun entries => output.pieces = pieces (ofPart index entries))
          fun entries more same later => by
            rwa [ofPart_append, ofPart_eq_nil fun entry member =>
              Nat.ne_of_gt (later entry member).le, List.append_nil]
        refine (framed.later fun _ _ ready => ready).bind fun _ => .pure fun _ _ ended =>
          ended.1.cons fun _ new => ?_
        rw [← ended.2]
        exact (Option.some.inj new).symm
      · simp only [if_neg affected]
        cases part.kind with
        | expression =>
          exact ((ih (index + 1) dirtyLocals).later fun _ _ => Ready.mono).bind fun _ =>
            .pure fun _ _ filled => filled.cons fun _ => nofun
        | block =>
          refine (faithful_firstPart scope part false).bind fun output => ?_
          exact ((ih (index + 1) dirtyLocals).later fun _ _ ended => ended.1).bind fun _ =>
            .pure fun _ _ filled => filled.cons fun _ => nofun

end

/-! ### The journal of a rendering -/

variable (template : Template) (dirty : Dirty) (view : ClientView) (scope : Scope σ) (config : Config)
  (world : σ) (store : Store)

/-- **The journal of a rendering tells of it.** -/
theorem tells_journal : Tells config (FairFrom 0 template.parts) (BlamesFrom config 0 template.parts)
    (fun output _ entries => Filled 0 template.parts output.1 entries) []
    (runParts scope config (isDense template dirty view) dirty 0 NameSet.empty template.parts
      (Pass.start world store))
    (journaled .kept template dirty view scope config world store)
    (journaled .lifted template dirty view scope config world store) :=
  faithful_runParts scope config _ dirty template.parts 0 NameSet.empty (Pass.start world store) []
    ⟨nofun, rfl⟩

/-- **A rendering with notes is the rendering.** -/
theorem render_eq_journaled :
    (render template dirty view scope config world store).1 =
      (journaled .kept template dirty view scope config world store).1.map fun output =>
        ⟨output.1, isDense template dirty view, output.2⟩ := by
  have same := (tells_journal template dirty view scope config world store).same
  unfold render
  simp only [ExceptT.run, ← same]
  rcases (journaled .kept template dirty view scope config world store).1 with error | output <;> rfl

/-- It leaves the same store. -/
theorem store_render :
    (render template dirty view scope config world store).2.2.2 =
      (journaled .kept template dirty view scope config world store).2.1.store := by
  have same := (tells_journal template dirty view scope config world store).same
  unfold render
  simp only [ExceptT.run, ← same]
  rcases (journaled .kept template dirty view scope config world store).1 with error | output <;> rfl

variable {template dirty view scope config world store}

/-- **What is shown for a part that is rendered** are the pieces that are noted for it. -/
theorem html_of_render {rendered : Rendered} {place : Nat} {part : DynamicPart} {html : String}
    (ran : (render template dirty view scope config world store).1 = .ok rendered)
    (there : template.parts[place]? = some (.dynamic part))
    (shown : rendered.markup[place]? = some (some html)) : html = Piece.join
      (pieces (ofPart place (journal .kept template dirty view scope config world store))) := by
  have sound := (tells_journal template dirty view scope config world store).sound
  obtain ⟨slot, found, new⟩ := Option.map_eq_some_iff.mp (List.getElem?_map.symm.trans shown)
  rw [render_eq_journaled] at ran
  rcases outcome : (journaled .kept template dirty view scope config world store).1 with error | output
  · rw [outcome] at ran
    cases ran
  · rw [outcome] at ran
    cases ran
    have filled := sound.ends output outcome there found new
    rwa [Nat.zero_add] at filled

end ReactiveView.Render
