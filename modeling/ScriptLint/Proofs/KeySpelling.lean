import ScriptLint.Proofs.CallVerdict
import ScriptLint.Proofs.Spelling
import ScriptLint.Syntax.Parser.Operand

/-! Constant keys. A member may be called by a constant key in brackets, which is a string or a template without
substitutions. The name of a string is what it means, and that of a template is what is written. So a key may be
spelled in any way that has no escape in a template, and gets the same verdicts. -/

namespace ScriptLint

namespace Syntax
namespace Parse

theorem bind_of_ok {A B : Type} {first : Parse A} {more : A → Parse B} {scope : Scope} {state behind : State}
    {found : A} (ran : first scope state = .ok found behind) :
    (first >>= more) scope state = more found scope behind := by
  change EStateM.bind (first scope) (fun found => more found scope) state = _
  rw [EStateM.bind, ran]

theorem token_eq (scope : Scope) (state : State) : token scope state = .ok state.token state := rfl

theorem kind_eq (scope : Scope) (state : State) : kind scope state = .ok state.token.kind state := rfl

theorem start_eq (scope : Scope) (state : State) : start scope state = .ok state.token.start.offset state := rfl

theorem advance_of_noWord (scope : Scope) {state : State} (noWord : ∀ name, state.token.kind ≠ .word name) :
    advance scope state = .ok () state.next := by
  rw [advance, bind_of_ok (token_eq scope state)]
  split
  · cases isKind : state.token.kind with
    | word name => exact absurd isKind (noWord name)
    | _ => rfl
  · rfl

theorem iterate_of_inr {S A : Type} {step : S → Parse (S ⊕ A)} {initial : S} {scope : Scope} {state behind : State}
    {result : A} (enough : 0 < scope.fuel) (ran : step initial scope state = .ok (.inr result) behind) :
    iterate step initial scope state = .ok result behind := by
  obtain ⟨fuel, fuelIs⟩ := Nat.exists_eq_add_one.mpr enough
  have scopeRead : (MonadReader.read : Parse Scope) scope state = .ok scope state := rfl
  rw [iterate, bind_of_ok scopeRead, fuelIs, iterate.go, bind_of_ok ran]
  rfl

theorem primary_of_string (g : Grammar) (scope : Scope) {state : State} {value : String}
    (isString : state.token.kind = .string value) :
    primary g scope state =
      .ok (.literal ⟨state.token.start.offset, state.token.stop⟩ (.string value)) state.next := by
  have noWord (name : String) : state.token.kind ≠ .word name := by simp [isString]
  rw [primary, bind_of_ok (kind_eq scope state), isString]
  dsimp only
  rw [literalOperand, bind_of_ok (start_eq scope state), bind_of_ok (advance_of_noWord scope noWord)]
  rfl

theorem primary_of_template (g : Grammar) {scope : Scope} (enough : 0 < scope.fuel) {state : State} {quasi : Quasi}
    (isTemplate : state.token.kind = .template quasi true) (sound : quasi.cooked.isSome = true) :
    primary g scope state =
      .ok (.template ⟨state.token.start.offset, state.token.stop⟩ [quasi] []) state.next := by
  have noWord (name : String) : state.token.kind ≠ .word name := by simp [isTemplate]
  have parts : templateParts g.inner scope state = .ok ([quasi], []) state.next := by
    refine iterate_of_inr enough ?_
    dsimp only
    rw [bind_of_ok (kind_eq scope state), isTemplate]
    dsimp only
    rw [bind_of_ok (advance_of_noWord scope noWord)]
    rfl
  rw [primary, bind_of_ok (kind_eq scope state), isTemplate]
  dsimp only
  rw [template, bind_of_ok (start_eq scope state), bind_of_ok parts]
  dsimp only
  have noIssue : (!false && [quasi].any (·.cooked.isNone)) = false := by
    simp [sound]
  rw [noIssue]
  rfl

end Parse
end Syntax

namespace Node

def constant? : Node → Option String
  | literal _ (.string value) => some value
  | template _ quasis [] => quasis.head?.bind Quasi.cooked
  | _ => none

def escapesTemplate : Node → Bool
  | template _ quasis [] => quasis.head?.any fun quasi => quasi.raw.toList.contains '\\'
  | _ => false

/-- If the node is a template, it has been read from a text. -/
def HasReadText (node : Node) : Prop :=
  ∀ span quasis parts, node = template span quasis parts → ∀ quasi ∈ quasis, quasi.IsRead

end Node

namespace CallSite

def key? (site : CallSite) : Option Node :=
  match site.callee.withoutParentheses with
  | .index _ _ key _ => some key
  | _ => none

structure CallsByKey (site : CallSite) (key : Node) (name : String) : Prop where
  keyed : site.key? = some key
  constant : key.constant? = some name
  read : key.HasReadText

theorem exists_callee_of_key? {site : CallSite} {key : Node} (keyed : site.key? = some key) :
    ∃ span owner optional, site.callee.withoutParentheses = .index span owner key optional := by
  unfold key? at keyed
  split at keyed
  · rename_i span owner inside optional callee
    cases keyed
    exact ⟨span, owner, optional, callee⟩
  · contradiction

theorem memberName?_of_string {site : CallSite} {span : Span} {value : String}
    (keyed : site.key? = some (.literal span (.string value))) : site.memberName? = some value := by
  obtain ⟨place, owner, optional, callee⟩ := exists_callee_of_key? keyed
  rw [memberName?, callee]

theorem memberName?_of_template {site : CallSite} {span : Span} {quasis : List Quasi}
    (keyed : site.key? = some (.template span quasis [])) : site.memberName? = quasis.head?.map Quasi.raw := by
  obtain ⟨place, owner, optional, callee⟩ := exists_callee_of_key? keyed
  rw [memberName?, callee]

namespace CallsByKey

variable {site : CallSite} {key : Node} {name : String}

theorem cases (calls : site.CallsByKey key name) :
    (∃ span, key = .literal span (.string name)) ∨
      ∃ span quasi more, key = .template span (quasi :: more) [] ∧ quasi.cooked = some name ∧ quasi.IsRead := by
  have constant := calls.constant
  unfold Node.constant? at constant
  split at constant
  · rename_i span value
    exact .inl ⟨span, by rw [Option.some.inj constant]⟩
  · rename_i span quasis
    obtain ⟨quasi, first, cooked⟩ := Option.bind_eq_some_iff.mp constant
    obtain ⟨more, rfl⟩ := List.head?_eq_some_iff.mp first
    exact .inr ⟨span, quasi, more, rfl, cooked, calls.read _ _ _ rfl quasi List.mem_cons_self⟩
  · contradiction

theorem memberName?_eq_iff (calls : site.CallsByKey key name) :
    site.memberName? = some name ↔ key.escapesTemplate = false := by
  have keyed := calls.keyed
  obtain ⟨span, rfl⟩ | ⟨span, quasi, more, rfl, cooked, read⟩ := calls.cases
  · exact iff_of_true (memberName?_of_string keyed) rfl
  · have plain : Node.escapesTemplate (.template span (quasi :: more) []) = false ↔ '\\' ∉ quasi.raw.toList := by
      simp [Node.escapesTemplate]
    rw [memberName?_of_template keyed, plain, ← Quasi.cooked_eq_raw_iff read, cooked, eq_comm]
    rfl

theorem memberName?_ne_apply (calls : site.CallsByKey key name) (escapes : key.escapesTemplate = true) :
    site.memberName? ≠ some "apply" := by
  have keyed := calls.keyed
  obtain ⟨span, rfl⟩ | ⟨span, quasi, more, rfl, -, -⟩ := calls.cases
  · contradiction
  · rw [memberName?_of_template keyed]
    intro same
    rw [List.head?_cons, Option.map_some, Option.some.injEq] at same
    have inside : "apply".toList.contains '\\' = true := by
      rw [← same]
      exact escapes
    exact absurd inside (by decide)

/-- However a name is spelled, what the parser reads there is a key by which the member of that name is called. -/
theorem of_startsConstant {scan : Syntax.Scan} (starts : scan.StartsConstant name) (g : Syntax.Grammar)
    {scope : Syntax.Scope} (enough : 0 < scope.fuel) :
    ∃ key state, Syntax.Parse.primary g scope (.ofScan scan) = .ok key state ∧
      (key.escapesTemplate = true → scan.rest.head? = some '`') ∧
      ∀ site : CallSite, site.key? = some key → site.CallsByKey key name := by
  have kind := Syntax.Lexer.token_of_startsConstant starts
  obtain isString | ⟨backtick, quasi, isTemplate, cooked, read⟩ := Syntax.Lexer.kindAt_of_startsConstant starts
  · refine ⟨_, _, Syntax.Parse.primary_of_string g scope (kind.trans isString), by simp [Node.escapesTemplate], ?_⟩
    intro site keyed
    exact ⟨keyed, rfl, by simp [Node.HasReadText]⟩
  · have sound : quasi.cooked.isSome = true := by rw [cooked, Option.isSome_some]
    refine ⟨_, _, Syntax.Parse.primary_of_template g enough (kind.trans isTemplate) sound, fun _ => backtick, ?_⟩
    intro site keyed
    refine ⟨keyed, cooked, ?_⟩
    rintro _ _ _ ⟨⟩ each member
    rwa [List.mem_singleton.mp member]

end CallsByKey

/-- A member that is called by a constant key is looked at by the name that the key evaluates to, unless the key is a
template with an escape in it. No rule reports the call then. A constant that spells the name between quotes or
backticks is read as a key that evaluates to it, and between quotes it is no such template. Calls by keys that evaluate
to one name get the same verdicts, however the keys are spelled, if no template among them has an escape. -/
theorem named_unless_template_escapes {site : CallSite} {key : Node} {name : String}
    (calls : site.CallsByKey key name) :
    (site.memberName? = some name ↔ key.escapesTemplate = false) ∧
    (key.escapesTemplate = true → NoFunctionApply.find site = none ∧ NoLiteral.find site = none) ∧
    (∀ (scan : Syntax.Scan) (g : Syntax.Grammar) (scope : Syntax.Scope), scan.StartsConstant name → 0 < scope.fuel →
      ∃ otherKey state, Syntax.Parse.primary g scope (.ofScan scan) = .ok otherKey state ∧
        (otherKey.escapesTemplate = true → scan.rest.head? = some '`') ∧
        ∀ other : CallSite, other.key? = some otherKey → other.CallsByKey otherKey name) ∧
    ∀ (other : CallSite) (otherKey : Node), other.CallsByKey otherKey name →
      key.escapesTemplate = false → otherKey.escapesTemplate = false → site.SameArguments other →
      site.SameVerdicts other := by
  refine ⟨calls.memberName?_eq_iff, ?_, ?_, ?_⟩
  · intro escapes
    exact find_eq_none_of_ne_apply (calls.memberName?_ne_apply escapes)
  · intro scan g scope starts enough
    exact CallsByKey.of_startsConstant starts g enough
  · intro other otherKey otherCalls plain otherPlain sameArguments
    refine sameVerdicts ?_ sameArguments.startsWithLiteral
    rw [calls.memberName?_eq_iff.mpr plain, otherCalls.memberName?_eq_iff.mpr otherPlain]

theorem named_unless_template_escapes_plain :
    let owner := Node.identifier ⟨0, 1⟩ "a"
    let quoted : CallSite :=
      ⟨⟨0, 16⟩, .index ⟨0, 13⟩ owner (.literal ⟨2, 12⟩ (.string "apply")) false, [], [.array ⟨14, 15⟩ []], false⟩
    let written : CallSite := ⟨⟨0, 13⟩, .index ⟨0, 10⟩ owner (.template ⟨2, 9⟩ [⟨"apply", some "apply"⟩] []) false, [],
      [.array ⟨11, 12⟩ []], false⟩
    quoted.memberName? = some "apply" ∧ quoted.SameVerdicts written ∧
      ∃ key state, Syntax.Parse.primary (Syntax.grammar 0) (Syntax.outermost .untyped "" false)
          (.ofScan (.ofText "'ap\\x70ly'")) = .ok key state ∧
        ∀ other : CallSite, other.key? = some key → other.CallsByKey key "apply" := by
  intro owner quoted written
  have byString : quoted.CallsByKey (.literal ⟨2, 12⟩ (.string "apply")) "apply" :=
    ⟨rfl, rfl, by simp [Node.HasReadText]⟩
  have byTemplate : written.CallsByKey (.template ⟨2, 9⟩ [⟨"apply", some "apply"⟩] []) "apply" := by
    refine ⟨rfl, rfl, ?_⟩
    intro span quasis parts same quasi member
    cases same
    cases List.mem_singleton.mp member
    exact ⟨Syntax.Scan.ofText "`apply`", true, ⟨7, [], 8⟩, rfl⟩
  have letter (c : Char) (known : c ∈ ['a', 'p', 'l', 'y']) (text : List Char) : Syntax.IsPlain '\'' c text := by
    have others : ∀ c ∈ ['a', 'p', 'l', 'y'], c ≠ '\'' ∧ c ≠ '\\' ∧ c ≠ '\r' ∧ c ≠ '\n' := by simp
    obtain ⟨noQuote, noBackslash, noCarriage, noFeed⟩ := others c known
    exact ⟨noQuote, noBackslash, noCarriage, fun feed => absurd feed noFeed, fun quote => absurd quote (by simp)⟩
  have escape : Syntax.EscapeMeans "x70ly'".toList ['p'] "ly'".toList :=
    @Syntax.EscapeMeans.byte ['7', '0'] _ 'p' rfl ⟨List.all_eq_true.mp rfl, rfl⟩
  have spelled : (Syntax.Scan.ofText "'ap\\x70ly'").StartsConstant "apply" := by
    refine ⟨'\'', "ap\\x70ly'".toList, [], by simp [Syntax.delimiters], rfl, by decide, ?_⟩
    exact .plain (letter 'a' (by simp) _) (.plain (letter 'p' (by simp) _) (.escape escape
      (.plain (letter 'l' (by simp) _) (.plain (letter 'y' (by simp) _) .close))))
  obtain ⟨named, -, read, same⟩ := named_unless_template_escapes byString
  obtain ⟨key, state, parsed, -, calls⟩ :=
    read _ (Syntax.grammar 0) (Syntax.outermost .untyped "" false) spelled (Nat.succ_pos _)
  exact ⟨named.mpr rfl, same written _ byTemplate rfl (by decide +kernel) rfl, key, state, parsed, calls⟩

/-- An escape in a template hides a call of `apply`. -/
theorem escaped_apply_unreported :
    ∃ program, Program.ofText (.ofPath "a.js") "a[`ap\\x70ly`](1)" = .ok program ∧ ∃ site ∈ program.calls,
      site.key?.bind Node.constant? = some "apply" ∧ site.memberName? = some "ap\\x70ly" ∧
      NoFunctionApply.find site = none ∧ NoLiteral.find site = none := by
  have checked : (Program.ofText (.ofPath "a.js") "a[`ap\\x70ly`](1)").toOption.any (fun program =>
      program.calls.any fun site => decide (site.key?.bind Node.constant? = some "apply" ∧
        site.memberName? = some "ap\\x70ly" ∧ NoFunctionApply.find site = none ∧ NoLiteral.find site = none)) =
      true := by decide +kernel
  obtain ⟨program, parsed, site, inTree, fits⟩ := Program.exists_call_of_any checked
  exact ⟨program, parsed, site, inTree, of_decide_eq_true fits⟩

end CallSite
end ScriptLint
