import MaximalMunch.Proofs.Grammar.WellFormed

/-!
What holds of a grammar at any time. However it was built, and whatever has been added to it or refused
and done to its trimming since, it is an ordered set of token types under names of their own: the first
ones, and behind them those that have been added, in the order of the calls.
-/

namespace MaximalMunch.Grammar

variable {g g' : Grammar} {t : TokenType} {name : Text}

/-! ### Lookups -/

/-- An ordered set of token types, each of them to be had by its name. -/
structure Keyed (g : Grammar) : Prop where
  named : ∀ name ∈ g.names, name ≠ []
  distinct : g.names.Nodup
  contained : ∀ name, g.contains name = true ↔ name ∈ g.names
  found : ∀ name, (∃ t, g.lookup name = .ok t) ↔ name ∈ g.names
  the_one : ∀ name t, g.lookup name = .ok t → ∀ u, (u ∈ g.types ∧ u.name = name) ↔ u = t
  unknown : ∀ name, name ∉ g.names → g.lookup name = .error ⟨name⟩

theorem name_ne_nil (h : name ∈ g.names) : name ≠ [] := by
  obtain ⟨t, _, rfl⟩ := List.mem_map.mp h
  exact t.named

theorem mem_of_lookup (h : g.lookup name = .ok t) : t ∈ g.types ∧ t.name = name := by
  rw [lookup] at h
  split at h
  case h_1 found =>
    cases h
    exact ⟨List.mem_of_find?_eq_some found, by simpa using List.find?_some found⟩
  case h_2 => cases h

theorem lookup_of_not_mem (missing : name ∉ g.names) : g.lookup name = .error ⟨name⟩ := by
  have none_found : g.get? name = none := by
    apply List.find?_eq_none.mpr
    intro t member same
    apply missing
    exact List.mem_map.mpr ⟨t, member, by simpa using same⟩
  rw [lookup, none_found]

theorem lookup_of_mem (there : name ∈ g.names) : ∃ t, g.lookup name = .ok t := by
  obtain ⟨t, member, rfl⟩ := List.mem_map.mp there
  have found : (g.get? t.name).isSome := List.find?_isSome.mpr ⟨t, member, by simp⟩
  obtain ⟨u, first⟩ := Option.isSome_iff_exists.mp found
  refine ⟨u, ?_⟩
  rw [lookup, first]

theorem keyed_of_distinct (distinct : g.names.Nodup) : g.Keyed := by
  refine ⟨fun _ => name_ne_nil, distinct, g.contains_iff, ?_, ?_, fun _ => lookup_of_not_mem⟩
  · intro name
    constructor
    · rintro ⟨t, found⟩
      obtain ⟨member, rfl⟩ := mem_of_lookup found
      exact List.mem_map_of_mem member
    · exact lookup_of_mem
  · intro name t found u
    obtain ⟨member, rfl⟩ := mem_of_lookup found
    constructor
    · rintro ⟨other, same⟩
      exact List.inj_on_of_nodup_map distinct other member same
    · rintro rfl
      exact ⟨member, rfl⟩

/-! ### Built grammars -/

/-- Built of token types, or read from plain data. -/
inductive Built : Grammar → Prop where
  | ofTypes (types : List TokenType) (trimming : Bool) (g : Grammar)
      (registered : (empty trimming).registerAll types = .ok g) : Built g
  | ofDefinition (definition : Data) (g : Grammar) (read : ofData definition = .ok g) : Built g

theorem register_eq_ok_iff :
    g.register t = .ok g' ↔ t.name ∉ g.names ∧ g' = ⟨g.types ++ [t], g.trimming⟩ := by
  rw [register]
  simp only [contains_iff]
  by_cases taken : t.name ∈ g.names
  · simp [taken]
  · simp [taken, eq_comm]

/-- Token types make up a grammar when their names are apart. -/
theorem registerAll_eq_ok_iff (distinct : g.names.Nodup) {types : List TokenType} :
    g.registerAll types = .ok g' ↔
      (g.names ++ types.map (·.name)).Nodup ∧ g' = ⟨g.types ++ types, g.trimming⟩ := by
  induction types generalizing g with
  | nil => simp [registerAll, distinct, eq_comm]
  | cons t types ih =>
      rw [registerAll]
      cases added : g.register t with
      | error e =>
          constructor
          · intro h
            contradiction
          · rintro ⟨apart, _⟩
            have free : t.name ∉ g.names := free_of_apart apart
            have accepted := register_eq_ok_iff.mpr ⟨free, rfl⟩
            rw [added] at accepted
            contradiction
      | ok next =>
          obtain ⟨free, rfl⟩ := register_eq_ok_iff.mp added
          have later := ih (distinct_concat distinct free)
          rw [names_concat] at later
          simpa using later

theorem Built.distinct (built : Built g) : g.names.Nodup := by
  cases built with
  | ofTypes types trimming _ registered =>
      obtain ⟨apart, rfl⟩ := (registerAll_eq_ok_iff (distinct_empty trimming)).mp registered
      exact apart
  | ofDefinition definition _ read =>
      obtain ⟨_, _, _, _, _, sound⟩ := wellFormed_of_ofData read
      have apart := sound.apart
      rw [map_pair_fst] at apart
      exact apart

/-! ### Changes -/

inductive Edit where
  | add (name regex : Text)
  | setTrimming (trimming : Bool)

def Edit.trimming (trimming : Bool) : Edit → Bool
  | .add _ _ => trimming
  | .setTrimming trimming => trimming

/-- The grammar after an edit, which may have failed. -/
def edit (g : Grammar) : Edit → Grammar
  | .add name regex => (addIn name regex).leaves g
  | .setTrimming trimming => (setTrimmingIn trimming).leaves g

/-- The name and the expression of a call that has added a token type. -/
def accepts (g : Grammar) : Edit → List (Text × Text)
  | .add name regex =>
    match (addIn name regex).run g with
    | .ok _ _ => [(name, regex)]
    | .error _ _ => []
  | .setTrimming _ => []

def after (g : Grammar) : List Edit → Grammar
  | [] => g
  | e :: rest => (g.edit e).after rest

def accepted (g : Grammar) : List Edit → List (Text × Text)
  | [] => []
  | e :: rest => g.accepts e ++ (g.edit e).accepted rest

/-- What an edit makes of a grammar, and what it adds. -/
inductive Edited (g : Grammar) : Edit → List (Text × Text) → Grammar → Prop where
  | refused (name regex : Text) : Edited g (.add name regex) [] g
  | added (t : TokenType) (free : t.name ∉ g.names) :
      Edited g (.add t.name t.regex) [t.pair] ⟨g.types ++ [t], g.trimming⟩
  | trimmed (trimming : Bool) : Edited g (.setTrimming trimming) [] ⟨g.types, trimming⟩

variable {e : Edit} {pairs : List (Text × Text)}

theorem edit_edited (g : Grammar) (e : Edit) : g.Edited e (g.accepts e) (g.edit e) := by
  cases e with
  | add name regex =>
      have comes := g.addIn_addition name regex
      rw [accepts, edit, Change.leaves]
      generalize (addIn name regex).run g = r at comes
      cases comes with
      | refused e why => exact .refused name regex
      | added t isName isRegex free =>
          subst isName isRegex
          exact .added t free
  | setTrimming trimming => exact .trimmed trimming

theorem Edited.distinct (h : g.Edited e pairs g') (distinct : g.names.Nodup) : g'.names.Nodup := by
  cases h with
  | refused | trimmed => exact distinct
  | added t free => exact distinct_concat distinct free

theorem Edited.pairs_eq (h : g.Edited e pairs g') :
    g'.types.map (·.pair) = g.types.map (·.pair) ++ pairs := by
  cases h with
  | refused | trimmed => simp
  | added t free => simp

theorem Edited.trimming_eq (h : g.Edited e pairs g') : g'.trimming = e.trimming g.trimming := by
  cases h <;> rfl

theorem Edited.kept (h : g.Edited e pairs g') : g.types <+: g'.types := by
  cases h with
  | refused | trimmed => exact List.prefix_refl _
  | added t free => exact List.prefix_append _ _

theorem after_distinct (distinct : g.names.Nodup) (edits : List Edit) :
    (g.after edits).names.Nodup := by
  induction edits generalizing g with
  | nil => exact distinct
  | cons e rest ih =>
      apply ih
      exact (g.edit_edited e).distinct distinct

theorem after_pairs (g : Grammar) (edits : List Edit) :
    (g.after edits).types.map (·.pair) = g.types.map (·.pair) ++ g.accepted edits := by
  induction edits generalizing g with
  | nil => simp [after, accepted]
  | cons e rest ih =>
      rw [after, accepted, ih, (g.edit_edited e).pairs_eq, List.append_assoc]

theorem after_trimming (g : Grammar) (edits : List Edit) :
    (g.after edits).trimming = edits.foldl Edit.trimming g.trimming := by
  induction edits generalizing g with
  | nil => rfl
  | cons e rest ih => rw [after, ih, (g.edit_edited e).trimming_eq, List.foldl_cons]

theorem after_prefix (g : Grammar) (edits : List Edit) : g.types <+: (g.after edits).types := by
  induction edits generalizing g with
  | nil => exact List.prefix_refl _
  | cons e rest ih => exact (g.edit_edited e).kept.trans (ih _)

/-- At any time since a grammar was built it is an ordered set under names of their own. Its types are
the first ones and behind them those added since, with the expressions of their calls; whatever is added
next comes out as it must, a refusal leaving all as it was; and all that is done later keeps these types
in front. -/
theorem keyed_of_edits (built : Built g) (edits more : List Edit) :
    let now := g.after edits
    now.Keyed ∧
    now.types.map (·.pair) = g.types.map (·.pair) ++ g.accepted edits ∧
    now.trimming = edits.foldl Edit.trimming g.trimming ∧
    (∀ name regex, now.Addition name regex ((addIn name regex).run now)) ∧
    now.types <+: (now.after more).types := by
  intro now
  refine ⟨?_, g.after_pairs edits, g.after_trimming edits, ?_, now.after_prefix more⟩
  · apply keyed_of_distinct
    exact after_distinct built.distinct edits
  · intro name regex
    exact now.addIn_addition name regex

/-- A type without a name, one whose name is taken and one whose expression is refused leave no trace. -/
theorem keyed_of_edits_letters :
    let edits := [Edit.add ['A'] ['a'], .add [] ['b'], .setTrimming false, .add ['A'] ['c'],
      .add ['B'] ['('], .add ['B'] ['b']]
    let now := (empty true).after edits
    Built (empty true) ∧ now.Keyed ∧ now.trimming = false ∧
      now.types.map (·.pair) = [(['A'], ['a']), (['B'], ['b'])] := by
  intro edits now
  have built : Built (empty true) := .ofTypes [] true _ rfl
  have accepted : (empty true).accepted edits = [(['A'], ['a']), (['B'], ['b'])] := by
    decide +kernel
  obtain ⟨keyed, pairs, trimming, _⟩ := keyed_of_edits built edits []
  rw [accepted] at pairs
  exact ⟨built, keyed, trimming, pairs⟩

end MaximalMunch.Grammar
