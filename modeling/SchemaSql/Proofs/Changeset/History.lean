/-
What a run of operations leaves behind.

A changeset is a log. Operations add to its end, and this file shows that they do nothing
else with it: what an operation adds depends on the dialect and on the capabilities in
force, never on the statements that are there already. All of it comes from one equation,
`apply_eq`, which says for each kind of operation what it adds, if it does not fail
(`Operation.added`), and that this is put behind what is there. So an operation has a
`segment` of its own, the statements that it leaves in an empty changeset.

The rest is bookkeeping along a run. The statements after it are those before it and the
segments of the operations in their order (`run_eq`), the dialect is what it was, and of
the capabilities the last ones set are in force. `setCapabilities` is the only operation
for which the place in the run matters, and it matters only for dropping columns.

Operations that fail are part of a run like any others. They have an empty segment, and so
have the two that are not there to write anything.
-/
import SchemaSql.Changeset.Operation
import SchemaSql.Proofs.Table.Script

set_option autoImplicit false

namespace SchemaSql

/-! ## What an operation says by itself -/

namespace Operation

/-- The capabilities that an operation puts in force. -/
def capabilities? : Operation → Option Capabilities
  | .setCapabilities capabilities => some capabilities
  | _ => none

/-- **What an operation adds**, or why it fails. -/
def added (d : Dialect) (capabilities : Capabilities) : Operation → Except Error (List String)
  | .create name steps =>
    let table := Table.ofSteps name steps
    match table.flaw? d with
    | some flaw => .error (.definition flaw)
    | none => .ok (table.statements d)
  | .raw sql => .ok [terminated sql]
  | .drop names ifExists cascade =>
    if names.isEmpty then .error (.definition .noTables)
    else .ok [dropTablesStatement names ifExists cascade]
  | .tableQuery _ => .ok []
  | .renameTable old new => .ok [d.renameTableStatement old new]
  | .renameColumn table old new => .ok [d.renameColumnStatement table old new]
  | .dropColumn table column => .ok (d.dropColumn? table column capabilities).toList
  | .setCapabilities _ => .ok []

theorem added_create_eq_ok {d : Dialect} {capabilities : Capabilities} {name : String}
    {steps : List Table.Step} {list : List String}
    (h : (create name steps).added d capabilities = .ok list) :
    list = (Table.ofSteps name steps).statements d := by
  rw [added] at h
  cases hflaw : (Table.ofSteps name steps).flaw? d with
  | some flaw =>
    rw [hflaw] at h
    cases h
  | none =>
    rw [hflaw] at h
    cases h
    rfl

theorem added_drop_eq_ok {d : Dialect} {capabilities : Capabilities} {names list : List String}
    {ifExists cascade : Bool} (h : (drop names ifExists cascade).added d capabilities = .ok list) :
    list = [dropTablesStatement names ifExists cascade] := by
  rw [added] at h
  by_cases hnames : names.isEmpty = true
  · rw [if_pos hnames] at h
    cases h
  · rw [if_neg hnames] at h
    cases h
    rfl

end Operation

namespace Changeset

/-! ## One operation -/

/-- A changeset after an operation that adds some statements. -/
def extended (c : Changeset) (op : Operation) (added : List String) : Changeset where
  dialect := c.dialect
  capabilities := op.capabilities?.getD c.capabilities
  statements := c.statements ++ added

/-- **The step.** The statements that are there stay in front, and nothing else of them matters. -/
theorem apply_eq (c : Changeset) (op : Operation) :
    c.apply op = (op.added c.dialect c.capabilities).map (c.extended op) := by
  cases op with
  | create name steps =>
    rw [apply, create_eq, Operation.added]
    cases (Table.ofSteps name steps).flaw? c.dialect with
    | some flaw => rfl
    | none => rfl
  | drop names ifExists cascade =>
    rw [apply, drop, Operation.added]
    by_cases hnames : names.isEmpty = true
    · rw [if_pos hnames, if_pos hnames]
      rfl
    · rw [if_neg hnames, if_neg hnames]
      rfl
  | tableQuery name =>
    have hsame : c.extended (.tableQuery name) [] = c := by
      unfold extended
      rw [List.append_nil]
      rfl
    exact congrArg Except.ok hsame.symm
  | setCapabilities capabilities =>
    have hset : c.extended (.setCapabilities capabilities) [] = { c with capabilities } := by
      unfold extended
      rw [List.append_nil]
      rfl
    exact congrArg Except.ok hset.symm
  | _ => rfl

/-! ## Segments -/

/-- An empty changeset. -/
def blank (d : Dialect) (capabilities : Capabilities) : Changeset := { dialect := d, capabilities }

/-- The capabilities in force after some operations: the last ones that were set. -/
def inForce (capabilities : Capabilities) (ops : List Operation) : Capabilities :=
  (ops.filterMap Operation.capabilities?).getLast?.getD capabilities

/-- **The segment of an operation.** The statements that it leaves in an empty changeset. -/
def segment (d : Dialect) (capabilities : Capabilities) (op : Operation) : List String :=
  ((blank d capabilities).next op).statements

/-- The segments of a run, each under the capabilities in force at its turn. -/
def segments (d : Dialect) (capabilities : Capabilities) : List Operation → List (List String)
  | [] => []
  | op :: ops => segment d capabilities op :: segments d (op.capabilities?.getD capabilities) ops

theorem segment_of_added_ok {d : Dialect} {capabilities : Capabilities} {op : Operation}
    {list : List String} (h : op.added d capabilities = .ok list) :
    segment d capabilities op = list := by
  have hadded : op.added (blank d capabilities).dialect (blank d capabilities).capabilities
      = .ok list := h
  unfold segment next
  rw [apply_eq, hadded]
  rfl

theorem segment_of_added_error {d : Dialect} {capabilities : Capabilities} {op : Operation}
    {e : Error} (h : op.added d capabilities = .error e) : segment d capabilities op = [] := by
  have hadded : op.added (blank d capabilities).dialect (blank d capabilities).capabilities
      = .error e := h
  unfold segment next
  rw [apply_eq, hadded]
  rfl

/-- No operation both fails and sets capabilities. -/
theorem capabilities?_of_added_error {d : Dialect} {capabilities : Capabilities} {op : Operation}
    {e : Error} (h : op.added d capabilities = .error e) : op.capabilities? = none := by
  cases op with
  | setCapabilities set => cases h
  | _ => rfl

/-- **The next changeset**, whether the operation fails or not. -/
theorem next_eq (c : Changeset) (op : Operation) :
    c.next op = c.extended op (segment c.dialect c.capabilities op) := by
  unfold next
  rw [apply_eq]
  cases hadded : op.added c.dialect c.capabilities with
  | error e =>
    rw [segment_of_added_error hadded, extended, capabilities?_of_added_error hadded,
      List.append_nil]
    rfl
  | ok list =>
    rw [segment_of_added_ok hadded]
    rfl

/-- The reply does not depend on the statements either. -/
theorem reply_eq (c : Changeset) (op : Operation) :
    c.reply op = (blank c.dialect c.capabilities).reply op := by
  have hblank : op.added (blank c.dialect c.capabilities).dialect
      (blank c.dialect c.capabilities).capabilities = op.added c.dialect c.capabilities := rfl
  unfold reply
  rw [apply_eq, apply_eq, hblank]
  cases op.added c.dialect c.capabilities with
  | error e => rfl
  | ok list => cases op <;> rfl

theorem segment_of_reply_failed {c : Changeset} {op : Operation} {e : Error}
    (h : c.reply op = .failed e) : segment c.dialect c.capabilities op = [] := by
  unfold reply at h
  rw [apply_eq] at h
  cases hadded : op.added c.dialect c.capabilities with
  | error e' => exact segment_of_added_error hadded
  | ok list =>
    rw [hadded] at h
    cases op <;> cases h

/-! ## Runs -/

theorem inForce_cons (capabilities : Capabilities) (op : Operation) (ops : List Operation) :
    inForce capabilities (op :: ops) = inForce (op.capabilities?.getD capabilities) ops := by
  unfold inForce
  cases hop : op.capabilities? with
  | none =>
    rw [List.filterMap_cons_none hop]
    rfl
  | some set =>
    -- What is set here stands in for the beginning of the remaining operations.
    rw [List.filterMap_cons_some hop, List.getLast?_cons]
    rfl

/-- **The run.** All that a run changes. -/
theorem run_eq (c : Changeset) (ops : List Operation) :
    c.run ops =
      { dialect := c.dialect
        capabilities := inForce c.capabilities ops
        statements := c.statements ++ (segments c.dialect c.capabilities ops).flatten } := by
  induction ops generalizing c with
  | nil =>
    rw [run_nil, segments, List.flatten_nil, List.append_nil]
    rfl
  | cons op ops ih =>
    rw [run_cons, ih, next_eq, inForce_cons, segments, List.flatten_cons, ← List.append_assoc]
    rfl

theorem length_segments (d : Dialect) (capabilities : Capabilities) (ops : List Operation) :
    (segments d capabilities ops).length = ops.length := by
  induction ops generalizing capabilities with
  | nil => rfl
  | cons op ops ih => rw [segments, List.length_cons, List.length_cons, ih]

/-- The segment at a place of a run. -/
theorem getElem?_segments (d : Dialect) (capabilities : Capabilities) (before : List Operation)
    (op : Operation) (after : List Operation) :
    (segments d capabilities (before ++ op :: after))[before.length]?
      = some (segment d (inForce capabilities before) op) := by
  induction before generalizing capabilities with
  | nil => rfl
  | cons first before ih =>
    rw [List.cons_append, segments, List.length_cons, List.getElem?_cons_succ, ih, inForce_cons]

/-- Where a statement of a run comes from. -/
theorem exists_added_of_mem_segments {d : Dialect} {capabilities : Capabilities}
    {ops : List Operation} {s : String} (h : s ∈ (segments d capabilities ops).flatten) :
    ∃ op ∈ ops, ∃ now list, op.added d now = .ok list ∧ s ∈ list := by
  induction ops generalizing capabilities with
  | nil => cases h
  | cons op ops ih =>
    rw [segments, List.flatten_cons, List.mem_append] at h
    rcases h with h | h
    · cases hadded : op.added d capabilities with
      | error e =>
        rw [segment_of_added_error hadded] at h
        cases h
      | ok list =>
        rw [segment_of_added_ok hadded] at h
        exact ⟨op, List.mem_cons_self, capabilities, list, hadded, h⟩
    · obtain ⟨op', hop', hfound⟩ := ih h
      exact ⟨op', List.mem_cons_of_mem op hop', hfound⟩

/-- What is seen at a place of a run: the reply there and the changeset after it. -/
theorem getElem?_history (c : Changeset) (before : List Operation) (op : Operation)
    (after : List Operation) :
    (c.history (before ++ op :: after))[before.length]?
      = some ((c.run before).reply op, (c.run before).next op) := by
  induction before generalizing c with
  | nil => rfl
  | cons first before ih =>
    rw [List.cons_append, history, List.length_cons, List.getElem?_cons_succ, ih, run_cons]

/-- **A run only appends, and what it appends has no history.** After the run the old statements are
followed by one segment for each operation. The segment is what the operation leaves in an empty
changeset with this dialect and the capabilities in force at its turn, and there it also replies
the same. It is empty if the operation fails, asks for a query or sets capabilities. The dialect
does not change, and the capabilities are the last that were set. Two runs in a row append one
after the other. -/
theorem run_appends_segments (c : Changeset) (ops : List Operation) :
    (c.run ops).statements = c.statements ++ (segments c.dialect c.capabilities ops).flatten
      ∧ (c.run ops).dialect = c.dialect
      ∧ (c.run ops).capabilities = inForce c.capabilities ops
      ∧ (segments c.dialect c.capabilities ops).length = ops.length
      ∧ (∀ before op after, ops = before ++ op :: after →
          let now := c.run before
          let fresh := blank c.dialect now.capabilities
          (c.history ops)[before.length]? = some (now.reply op, now.next op)
            ∧ now.reply op = fresh.reply op
            ∧ (segments c.dialect c.capabilities ops)[before.length]?
                = some (fresh.next op).statements
            ∧ ((∃ e, now.reply op = .failed e) ∨ (∃ name, op = .tableQuery name)
                ∨ (∃ capabilities, op = .setCapabilities capabilities)
                → (fresh.next op).statements = []))
      ∧ ∀ more, (c.run (ops ++ more)).statements
          = (c.run ops).statements
            ++ ((blank c.dialect (c.run ops).capabilities).run more).statements := by
  refine ⟨?_, ?_, ?_, length_segments _ _ ops, ?_, ?_⟩
  · rw [run_eq]
  · rw [run_eq]
  · rw [run_eq]
  · rintro before op after rfl
    have hnow : blank c.dialect (c.run before).capabilities
        = blank (c.run before).dialect (c.run before).capabilities := by rw [run_eq]
    refine ⟨getElem?_history c before op after, ?_, ?_, ?_⟩
    · rw [hnow, ← reply_eq]
    · rw [run_eq, getElem?_segments]
      rfl
    · rintro (⟨e, he⟩ | ⟨name, rfl⟩ | ⟨capabilities, rfl⟩)
      · rw [hnow]
        exact segment_of_reply_failed he
      · rfl
      · rfl
  · intro more
    rw [run_append, run_eq (c.run ops), run_eq (blank _ _), run_eq c]
    rfl

end Changeset

end SchemaSql
