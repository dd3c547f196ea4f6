import Mathlib.Data.List.Forall2
import ScriptLint.Proofs.Independence

/-! What runs and what a registry has to say about it. A rule is subscribed to the sites of a kind if one of its visitors
looks at them, and a dispatch is made of the visitors of the subscribed rules that are on. Both keep the order of the
registry, and a dispatch also that of the visitors of a rule. -/

namespace ScriptLint

structure Dispatch.Entry where
  rule : Rule
  severity : Severity
  visitor : Visitor

def Dispatch.entries (dispatch : Dispatch) : SiteKind → List Dispatch.Entry
  | .call => dispatch.calls.map fun each => ⟨each.rule, each.severity, .call each.find⟩
  | .element => dispatch.elements.map fun each => ⟨each.rule, each.severity, .element each.find⟩

def Rule.visitorsOf (rule : Rule) (kind : SiteKind) : List Visitor :=
  rule.visitors.filter fun visitor => visitor.kind = kind

def Rule.entries (config : Config) (kind : SiteKind) (rule : Rule) : List Dispatch.Entry :=
  match (config.level rule.name).severity? with
  | none => []
  | some severity => (rule.visitorsOf kind).map (Dispatch.Entry.mk rule severity)

/-- The subscribed rules that are on, where there are sites of the kind. -/
def Registry.running (registry : Registry) (config : Config) (dialect : Dialect) (kind : SiteKind) : List Rule :=
  if kind = .call ∨ dialect.elements = true then
    (registry.visitorsFor kind).filter fun rule => config.isEnabled rule.name
  else []

namespace Rule

theorem entries_call (config : Config) (rule : Rule) :
    (rule.enabledCalls config).map (fun each => Dispatch.Entry.mk each.rule each.severity (.call each.find)) =
      rule.entries config .call := by
  unfold enabledCalls entries visitorsOf
  cases (config.level rule.name).severity? with
  | none => rfl
  | some severity =>
    dsimp only
    induction rule.visitors with
    | nil => rfl
    | cons visitor rest ih => cases visitor <;> simp [Visitor.kind, ih]

theorem entries_element (config : Config) (elements : Bool) (rule : Rule) :
    (rule.enabledElements config elements).map
        (fun each => Dispatch.Entry.mk each.rule each.severity (.element each.find)) =
      if elements then rule.entries config .element else [] := by
  unfold enabledElements entries visitorsOf
  cases (config.level rule.name).severity? with
  | none => simp
  | some severity =>
    dsimp only
    induction rule.visitors with
    | nil => simp
    | cons visitor rest ih => cases visitor <;> cases elements <;> simp_all [Visitor.kind]

theorem entries_eq_nil_iff (config : Config) (kind : SiteKind) (rule : Rule) :
    rule.entries config kind = [] ↔ ¬ (config.isEnabled rule.name = true ∧ rule.subscribesTo kind = true) := by
  have on : config.isEnabled rule.name = true ↔ ∃ severity, (config.level rule.name).severity? = some severity :=
    Level.isEnabled_iff
  unfold entries
  cases known : (config.level rule.name).severity? with
  | none => simp [on, known]
  | some severity => simp [on, known, visitorsOf, subscribesTo]

theorem entries_of_severity {config : Config} {rule : Rule} {severity : Severity}
    (known : (config.level rule.name).severity? = some severity) (kind : SiteKind) :
    rule.entries config kind = (rule.visitorsOf kind).map (Dispatch.Entry.mk rule severity) := by
  rw [entries, known]

theorem map_rule_entries {config : Config} {rule : Rule} (on : config.isEnabled rule.name = true) (kind : SiteKind) :
    (rule.entries config kind).map Dispatch.Entry.rule =
      List.replicate (rule.visitors.countP fun visitor => visitor.kind = kind) rule := by
  obtain ⟨severity, known⟩ := Level.isEnabled_iff.mp on
  rw [entries_of_severity known, List.map_map, List.countP_eq_length_filter]
  exact List.map_const'

theorem map_visitor_entries {config : Config} {rule : Rule} (on : config.isEnabled rule.name = true)
    (kind : SiteKind) :
    (rule.entries config kind).map (fun entry => (entry.rule, entry.visitor)) =
      (rule.visitorsOf kind).map (Prod.mk rule) := by
  obtain ⟨severity, known⟩ := Level.isEnabled_iff.mp on
  rw [entries_of_severity known, List.map_map]
  rfl

theorem severity_of_entries {config : Config} {kind : SiteKind} {rule : Rule} {entry : Dispatch.Entry}
    (member : entry ∈ rule.entries config kind) :
    (config.level entry.rule.name).severity? = some entry.severity := by
  cases known : (config.level rule.name).severity? with
  | none => simp [entries, known] at member
  | some severity =>
    rw [entries_of_severity known] at member
    obtain ⟨visitor, _, rfl⟩ := List.mem_map.mp member
    exact known

end Rule

namespace Registry

variable (registry : Registry) (config : Config) (dialect : Dialect)

theorem isEnabled_of_mem_running {kind : SiteKind} {rule : Rule}
    (member : rule ∈ registry.running config dialect kind) :
    config.isEnabled rule.name = true ∧ rule.subscribesTo kind = true := by
  unfold running at member
  split at member
  · obtain ⟨inside, on⟩ := List.mem_filter.mp member
    exact ⟨on, (List.mem_filter.mp inside).2⟩
  · contradiction

theorem flatMap_entries (kind : SiteKind) :
    registry.rules.flatMap (Rule.entries config kind) =
      ((registry.visitorsFor kind).filter fun rule => config.isEnabled rule.name).flatMap
        (Rule.entries config kind) := by
  have decided (rule : Rule) : ∀ entry ∈ rule.entries config kind,
      true = (config.isEnabled rule.name && rule.subscribesTo kind) := by
    intro entry member
    by_contra not
    have nothing := (rule.entries_eq_nil_iff config kind).mpr (by simpa using not)
    rw [nothing] at member
    contradiction
  rw [visitorsFor, List.filter_filter, ← filter_flatMap_decided registry.rules decided, List.filter_true]

/-- A dispatch is made of the entries of the rules that run, in their order. -/
theorem entries_ofRegistry (kind : SiteKind) :
    (Dispatch.ofRegistry registry config dialect).entries kind =
      (registry.running config dialect kind).flatMap (Rule.entries config kind) := by
  cases kind with
  | call =>
    rw [Dispatch.entries, Dispatch.ofRegistry_calls, List.map_flatMap, running, if_pos (.inl rfl),
      ← flatMap_entries]
    exact List.flatMap_congr fun rule _ => rule.entries_call config
  | element =>
    rw [Dispatch.entries, Dispatch.ofRegistry_elements, List.map_flatMap,
      List.flatMap_congr fun rule _ => rule.entries_element config dialect.elements]
    cases has : dialect.elements with
    | true =>
      rw [running, if_pos (.inr has), ← flatMap_entries]
      rfl
    | false => simp [running, has]

theorem running_eq_nil_iff (kind : SiteKind) :
    registry.running config dialect kind = [] ↔
      (Dispatch.ofRegistry registry config dialect).entries kind = [] := by
  rw [entries_ofRegistry, List.flatMap_eq_nil_iff]
  constructor
  · intro nothing
    simp [nothing]
  · intro allEmpty
    rw [List.eq_nil_iff_forall_not_mem]
    intro rule member
    exact (rule.entries_eq_nil_iff config kind).mp (allEmpty rule member)
      (registry.isEnabled_of_mem_running config dialect member)

def subscriberPlaces (kind : SiteKind) : List Nat :=
  (registry.rules.zipIdx.filter fun each => each.1.subscribesTo kind).map Prod.snd

theorem subscriberPlaces_increasing (kind : SiteKind) : (registry.subscriberPlaces kind).Pairwise (· < ·) := by
  have inOrder : (registry.rules.zipIdx.map Prod.snd).Pairwise (· < ·) := by
    rw [List.zipIdx_map_snd]
    exact List.pairwise_lt_range'
  exact inOrder.sublist (List.filter_sublist.map Prod.snd)

theorem mem_subscriberPlaces_iff (kind : SiteKind) (place : Nat) :
    place ∈ registry.subscriberPlaces kind ↔
      ∃ rule, registry.rules[place]? = some rule ∧ ∃ visitor ∈ rule.visitors, visitor.kind = kind := by
  simp [subscriberPlaces, List.mem_zipIdx_iff_getElem?, Rule.subscribesTo]

theorem forall₂_subscriberPlaces (kind : SiteKind) :
    List.Forall₂ (fun place rule => registry.rules[place]? = some rule) (registry.subscriberPlaces kind)
      (registry.visitorsFor kind) := by
  have rules : registry.visitorsFor kind =
      (registry.rules.zipIdx.filter fun each => each.1.subscribesTo kind).map Prod.fst := by
    rw [visitorsFor, ← List.zipIdx_map_fst 0 registry.rules, List.filter_map]
    simp [Function.comp_def]
  rw [rules, subscriberPlaces, List.forall₂_map_left_iff, List.forall₂_map_right_iff, List.forall₂_same]
  intro each member
  exact List.mem_zipIdx_iff_getElem?.mp (List.mem_filter.mp member).1

end Registry

/-- A dispatch runs at the sites of a kind the rules that are subscribed to it and on, in the order of the registry,
each once for every visitor of the kind that it has and with these visitors in their order. Elements are sites only
where the dialect has them. Each entry has the severity that the level of its rule stands for. There is nothing to run
if and only if no such rule is there. The subscribed rules are those with a visitor of the kind, each place of the
registry at most once and in order. -/
theorem dispatch_lists_subscribers (registry : Registry) (config : Config) (dialect : Dialect) :
    let dispatch := Dispatch.ofRegistry registry config dialect
    let running := registry.running config dialect
    (∀ kind, (dispatch.entries kind).map Dispatch.Entry.rule = (running kind).flatMap fun rule =>
      List.replicate (rule.visitors.countP fun visitor => visitor.kind = kind) rule) ∧
    (∀ kind, (dispatch.entries kind).map (fun entry => (entry.rule, entry.visitor)) =
      (running kind).flatMap fun rule => (rule.visitorsOf kind).map (Prod.mk rule)) ∧
    (∀ kind, ∀ entry ∈ dispatch.entries kind,
      (config.level entry.rule.name).severity? = some entry.severity) ∧
    (dispatch.isEmpty = true ↔ running .call = [] ∧ running .element = []) ∧
    ∀ kind, ∃ places : List Nat, places.Pairwise (· < ·) ∧
      (∀ place, place ∈ places ↔
        ∃ rule, registry.rules[place]? = some rule ∧ ∃ visitor ∈ rule.visitors, visitor.kind = kind) ∧
      List.Forall₂ (fun place rule => registry.rules[place]? = some rule) places (registry.visitorsFor kind) := by
  intro dispatch running
  have on {kind : SiteKind} {rule : Rule} (member : rule ∈ running kind) : config.isEnabled rule.name = true :=
    (registry.isEnabled_of_mem_running config dialect member).1
  refine ⟨?_, ?_, ?_, ?_, ?_⟩
  · intro kind
    rw [registry.entries_ofRegistry, List.map_flatMap]
    exact List.flatMap_congr fun rule member => Rule.map_rule_entries (on member) kind
  · intro kind
    rw [registry.entries_ofRegistry, List.map_flatMap]
    exact List.flatMap_congr fun rule member => Rule.map_visitor_entries (on member) kind
  · intro kind entry member
    rw [registry.entries_ofRegistry] at member
    obtain ⟨rule, _, inside⟩ := List.mem_flatMap.mp member
    exact Rule.severity_of_entries inside
  · rw [registry.running_eq_nil_iff, registry.running_eq_nil_iff]
    simp [Dispatch.isEmpty, Dispatch.entries, dispatch]
  · intro kind
    exact ⟨registry.subscriberPlaces kind, registry.subscriberPlaces_increasing kind,
      registry.mem_subscriberPlaces_iff kind, registry.forall₂_subscriberPlaces kind⟩

end ScriptLint
