import RowSelection.Proofs.Wording
import RowSelection.Session

set_option autoImplicit false

namespace RowSelection

open Journal

def debugLine (text : String) : LogLine := ⟨.debug, "keymatch", text⟩

def traceLine (text : String) : LogLine := ⟨.trace, "keymatch", text⟩

def LogLevel.enabledBy (level : LogLevel) : Option LogLevel → Bool
  | none => false
  | some .error => level == .error
  | some .warn => level == .error || level == .warn
  | some .info => level == .error || level == .warn || level == .info
  | some .debug => level != .trace
  | some .trace => true

def TableSchema.undeclaredLines (table : TableSchema) : List LogLine :=
  if table.keyDeclaration? = none then
    [debugLine ("event=key_schema_undeclared fields=" ++ toString table.fields.length)]
  else []

def Origin.undeclaredLines : Origin → List LogLine
  | .table container => container.undeclaredLines
  | _ => []

namespace Predicate

def creationLines : Except PredicateError Predicate → List LogLine
  | .ok p =>
      [debugLine ("event=predicate_created component=key_predicate bound_type=" ++ Wording.binding p.binding ++
        " variant=" ++ Wording.variant p.variant ++ " key_columns=" ++ toString p.schema.size ++
        " range_eligible=" ++ toString p.rangeEligible)]
  | .error _ => []

def refusalLines (p : Predicate) (mutation : Mutation) : Except PredicateError Predicate → List LogLine
  | .ok _ => []
  | .error _ =>
      [traceLine ("event=predicate_mutation_rejected component=key_predicate op=" ++ Wording.operation mutation ++
        " variant=" ++ Wording.variant p.variant ++ " error=" ++ Wording.refusal p mutation)]

end Predicate

-- Declaring a key resolves it as well, but what is resolved then has a declaration.
def Exchange.lines (exchange : Exchange) : List LogLine :=
  match exchange.request, exchange.answer with
  | .resolve table, _ => table.undeclaredLines
  | .make origin _, .made result => origin.undeclaredLines ++ Predicate.creationLines result
  | .change _ mutation, .changed p result => p.refusalLines mutation result
  | _, _ => []

theorem keeps_eq (filter : Option LogLevel) (level : LogLevel) : keeps filter level = level.enabledBy filter := by
  cases filter with
  | none => rfl
  | some least => cases least <;> cases level <;> rfl

theorem records_resolve (table : TableSchema) :
    Records (KeySchema.resolveLogged table) (KeySchema.resolve table) table.undeclaredLines := by
  unfold KeySchema.resolveLogged TableSchema.undeclaredLines
  cases table.keyDeclaration? with
  | none => exact records_map (records_note (.keyUndeclared table.fields.length)) fun _ => KeySchema.resolve table
  | some text => exact records_pure _

theorem records_declare_key (table : TableSchema) (choices : List KeyChoice) :
    Records (table.declareKeyLogged choices) (table.declareKey choices) [] := by
  have resolved := records_resolve (table.declareParts (KeyChoice.parts choices))
  have declared : (table.declareParts (KeyChoice.parts choices)).undeclaredLines = [] := by
    rw [TableSchema.undeclaredLines, TableSchema.declareParts, TableSchema.key_declaration?_with_key_declaration]
    exact if_neg (Option.some_ne_none _)
  rw [declared] at resolved
  exact records_map resolved fun result => result.map fun _ => table.declareParts (KeyChoice.parts choices)

namespace Predicate

theorem line_of_created (binding : Binding) (columns : Nat) (eligible : Bool) :
    (LogEvent.created binding binding.variant columns eligible).line =
      debugLine ("event=predicate_created component=key_predicate bound_type=" ++ Wording.binding binding ++
        " variant=" ++ Wording.variant binding.variant ++ " key_columns=" ++ toString columns ++
        " range_eligible=" ++ toString eligible) := by
  rw [← Wording.binding_eq, ← Wording.variant_eq]
  rfl

theorem line_of_rejected {p : Predicate} (keyed : p.schema.hasKey = true) {mutation : Mutation} {error : PredicateError}
    (refused : p.apply mutation = .error error) :
    (LogEvent.rejected mutation.name p.variant error).line =
      traceLine ("event=predicate_mutation_rejected component=key_predicate op=" ++ Wording.operation mutation ++
        " variant=" ++ Wording.variant p.variant ++ " error=" ++ Wording.refusal p mutation) := by
  rw [← Wording.operation_eq, ← Wording.variant_eq, ← Wording.refusal_eq keyed refused]
  rfl

theorem records_of_binding (binding : Binding) (options : Options) :
    Records (ofBindingLogged binding options) (ofBinding binding options) (creationLines (ofBinding binding options)) := by
  unfold ofBindingLogged ofBinding
  by_cases keyed : binding.schema.hasKey = true
  · rw [if_pos keyed, if_pos keyed, creationLines]
    have noted := records_note (.created binding binding.variant binding.schema.size (binding.allowsRange options))
    rw [line_of_created] at noted
    exact records_map noted fun _ => _
  · rw [if_neg keyed, if_neg keyed]
    exact records_pure _

theorem records_make (origin : Origin) (options : Options) :
    Records (makeLogged origin options) (make origin options)
      (origin.undeclaredLines ++ creationLines (make origin options)) := by
  cases origin with
  | keyType type => exact records_of_binding (.tag type) options
  | keySchema schema => exact records_of_binding (.rows schema) options
  | dataType dataType =>
      simp only [makeLogged, make, ofDataType]
      cases KeyType.ofDataType? dataType with
      | some type => exact records_of_binding (.tag type) options
      | none => exact records_pure _
  | hostType host =>
      simp only [makeLogged, make, ofHostType]
      cases host.keyType? with
      | some type => exact records_of_binding (.host type) options
      | none => exact records_pure _
  | table table =>
      apply records_bind (records_resolve table)
      simp only [make, ofTable]
      cases KeySchema.resolve table with
      | ok schema => exact records_of_binding (.rows schema) options
      | error source => exact records_pure _

theorem records_apply {p : Predicate} (keyed : p.schema.hasKey = true) (mutation : Mutation) :
    Records (p.applyLogged mutation) (p.apply mutation) (p.refusalLines mutation (p.apply mutation)) := by
  unfold applyLogged
  cases outcome : p.apply mutation with
  | ok q => exact records_pure _
  | error error =>
      have noted := records_note (.rejected mutation.name p.variant error)
      rw [line_of_rejected keyed outcome] at noted
      exact records_map noted fun _ => _

end Predicate

def AllKeyed (predicates : List Predicate) : Prop := ∀ p ∈ predicates, p.schema.hasKey = true

theorem AllKeyed.keep {predicates : List Predicate} (keyed : AllKeyed predicates) (request : Request) :
    AllKeyed (request.keep predicates (request.answer predicates)) := by
  cases request with
  | resolve table => exact keyed
  | declareKey table choices => exact keyed
  | make origin options =>
      cases made : Predicate.make origin options with
      | error error => simpa only [Request.answer, Request.keep, made] using keyed
      | ok p =>
          simp only [Request.answer, Request.keep, made]
          intro q member
          rcases List.mem_append.mp member with older | newest
          · exact keyed q older
          · cases List.mem_singleton.mp newest
            exact (Predicate.fresh_of_make made).1
  | change place mutation =>
      cases found : predicates[place]? with
      | none => simpa only [Request.answer, Request.keep, found] using keyed
      | some p =>
          cases outcome : p.apply mutation with
          | error error => simpa only [Request.answer, Request.keep, found, outcome] using keyed
          | ok changed =>
              simp only [Request.answer, Request.keep, found, outcome]
              intro q member
              rcases List.mem_or_eq_of_mem_set member with older | rfl
              · exact keyed q older
              · rw [← Predicate.step_of_ok outcome]
                exact Predicate.keyed_step (keyed p (List.mem_of_getElem? found)) mutation

theorem records_answer {predicates : List Predicate} (keyed : AllKeyed predicates) (request : Request) :
    Records (request.answerLogged predicates) (request.answer predicates)
      (request.exchange predicates (request.answer predicates)).lines := by
  cases request with
  | resolve table => exact records_map (records_resolve table) Answer.resolved
  | declareKey table choices => exact records_map (records_declare_key table choices) Answer.declared
  | make origin options => exact records_map (Predicate.records_make origin options) Answer.made
  | change place mutation =>
      simp only [Request.answerLogged, Request.answer]
      cases found : predicates[place]? with
      | none => exact records_pure _
      | some p =>
          exact records_map (Predicate.records_apply (keyed p (List.mem_of_getElem? found)) mutation) (Answer.changed p)

theorem records_run {predicates : List Predicate} (keyed : AllKeyed predicates) (requests : List Request) :
    Records (Session.runLogged predicates requests) (Session.run predicates requests)
      ((Session.run predicates requests).flatMap Exchange.lines) := by
  induction requests generalizing predicates with
  | nil => exact records_pure []
  | cons request rest ih =>
      rw [Session.run, List.flatMap_cons]
      apply records_bind (records_answer keyed request)
      exact records_map (ih (keyed.keep request)) _

def Exchange.TellsRefusal (exchange : Exchange) : Prop :=
  ∀ place mutation p error, exchange.request = .change place mutation → exchange.answer = .changed p (.error error) →
    error.message = Wording.refusal p mutation

theorem tells_refusal {predicates : List Predicate} (keyed : AllKeyed predicates) (requests : List Request) :
    ∀ exchange ∈ Session.run predicates requests, exchange.TellsRefusal := by
  induction requests generalizing predicates with
  | nil => simp [Session.run]
  | cons request rest ih =>
      intro exchange member
      rcases List.mem_cons.mp member with rfl | later
      · intro place mutation p error asked answered
        cases asked
        simp only [Request.exchange, Request.answer] at answered
        cases found : predicates[place]? with
        | none =>
            rw [found] at answered
            cases answered
        | some held =>
            rw [found] at answered
            injection answered with same refused
            subst same
            exact Wording.refusal_eq (keyed held (List.mem_of_getElem? found)) refused
      · exact ih (keyed.keep request) exchange later

theorem journal_records_session (requests : List Request) :
    let exchanges := Session.run [] requests
    let record := exchanges.flatMap Exchange.lines
    (Session.runLogged [] requests (.opened (some .trace))).2.lines = record ∧
    (∀ exchange ∈ exchanges, exchange.TellsRefusal) ∧
    ∀ filter,
      (Session.runLogged [] requests (.opened filter)).1 = exchanges ∧
      (Session.runLogged [] requests (.opened filter)).2.lines = record.filter fun line => line.level.enabledBy filter := by
  intro exchanges record
  have keyed : AllKeyed [] := fun p member => absurd member List.not_mem_nil
  have recorded := records_run keyed requests
  have kept : ∀ filter, (Session.runLogged [] requests (.opened filter)).2.lines =
      record.filter fun line => line.level.enabledBy filter := by
    intro filter
    rw [recorded]
    simp only [← keeps_eq]
    exact List.nil_append _
  refine ⟨?_, tells_refusal keyed requests, fun filter => ⟨?_, kept filter⟩⟩
  · rw [kept]
    exact List.filter_eq_self.mpr fun line _ => rfl
  · rw [recorded]

example :
    let requests : List Request := [.make (.keyType .long) .default, .resolve ⟨[], .empty⟩,
      .change 0 (.add none), .change 0 (.setStart none), .change 2 (.add none)]
    (Session.runLogged [] requests (.opened (some .trace))).2.lines =
      [⟨.debug, "keymatch", "event=predicate_created component=key_predicate bound_type=Dynamic(Long) " ++
          "variant=Plain key_columns=1 range_eligible=true"⟩,
        ⟨.debug, "keymatch", "event=key_schema_undeclared fields=0"⟩,
        ⟨.trace, "keymatch", "event=predicate_mutation_rejected component=key_predicate op=add variant=Plain " ++
          "error=missing value for distinct key"⟩] := by
  decide +kernel

end RowSelection
