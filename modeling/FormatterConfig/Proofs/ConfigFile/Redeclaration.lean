import FormatterConfig.Proofs.ConfigFile.Contents
import FormatterConfig.Proofs.Fixity.Overlay

set_option autoImplicit false

/-! # Operators that are declared again

The declarations of a document are read one after the other into one table. An operator that is
declared again, in the same declaration or in a later one, keeps the place of its first declaration
and gets the fixity of its last. That is what laying one table over another does, so reading two
lists of declarations one behind the other is reading each and laying the second table over the
first. A declaration that cannot be read ends the reading, whatever comes behind it. -/

namespace FormatterConfig.ConfigFile

open FixityTable (operators overlay)

/-- What each of several declarations states, in order. -/
def States (declarations : List Value) (entries : List (List (String × Fixity))) : Prop :=
  List.Forall₂ (fun d pairs => (Declaration.parseLogged (declarationText d)).outcome = .ok pairs)
    declarations entries

theorem States.append {xs ys : List Value} {xEntries yEntries : List (List (String × Fixity))}
    (hx : States xs xEntries) (hy : States ys yEntries) : States (xs ++ ys) (xEntries ++ yEntries) :=
  List.rel_append hx hy

theorem outcome_readFixities_eq_ok {declarations : List Value} {table : FixityTable} :
    (readFixities declarations).outcome = .ok table ↔
      ∃ entries, States declarations entries ∧ table = FixityTable.ofList entries.flatten := by
  rw [readFixities, outcome_declareAll_eq_ok]
  simp only [States, Declaration.outcome_parseLogged]
  rfl

/-- Making a table of some entries and then of others is laying the second table over the first. -/
theorem ofList_append (xs ys : List (String × Fixity)) :
    FixityTable.ofList (xs ++ ys) = overlay (FixityTable.ofList ys) (FixityTable.ofList xs) := by
  have hnil : (operators []).Nodup := List.nodup_nil
  rw [FixityTable.ofList, FixityTable.insertAll_append]
  exact (FixityTable.insertAll_insertAll hnil ys).symm

/-- Two lists of declarations that are read give, one behind the other, the second table laid over
the first. Each operator stands in the table once, where it was declared first, with the fixity that
it was declared with last. The first declaration that is refused decides what the reading ends in,
with the report of that declaration for a message. -/
theorem readFixities_redeclared (xs : List Value) :
    (∀ ys low high, (readFixities xs).outcome = .ok low → (readFixities ys).outcome = .ok high →
        (readFixities (xs ++ ys)).outcome = .ok (overlay high low)) ∧
      (∀ table, (readFixities xs).outcome = .ok table →
        ∃ entries, States xs entries ∧ (operators table).Nodup ∧
          operators table = (operators entries.flatten).eraseDups ∧
          ∀ name, FixityTable.find? table name =
            FixityTable.find? entries.flatten.reverse name) ∧
      ∀ d stop,
        (∀ e ∈ xs, ∃ pairs, (Declaration.parseLogged (declarationText e)).outcome = .ok pairs) →
        (Declaration.parseLogged (declarationText d)).outcome = .error (.malformed stop) →
        ∃ error : ConfigError, error.message = (stop.report (declarationText d)).pretty ∧
          ∀ after, (readFixities (xs ++ d :: after)).outcome = .error (.refused error) := by
  refine ⟨fun ys low high hlow hhigh => ?_, fun table htable => ?_, fun d stop hxs hd => ?_⟩
  · obtain ⟨xEntries, hx, rfl⟩ := outcome_readFixities_eq_ok.1 hlow
    obtain ⟨yEntries, hy, rfl⟩ := outcome_readFixities_eq_ok.1 hhigh
    refine outcome_readFixities_eq_ok.2 ⟨_, hx.append hy, ?_⟩
    rw [List.flatten_append, ofList_append]
  · obtain ⟨entries, hentries, rfl⟩ := outcome_readFixities_eq_ok.1 htable
    refine ⟨entries, hentries, FixityTable.nodup_insertAll _ List.nodup_nil,
      FixityTable.operators_insertAll_nil _, fun name => ?_⟩
    rw [FixityTable.ofList, FixityTable.find?_insertAll_reverse]
    exact Option.or_none
  · simp only [Declaration.outcome_parseLogged] at hxs hd
    exact ⟨_, rfl, fun after => outcome_declareAll_eq_error.2 ⟨xs, d, after, _, rfl, hxs, hd, rfl⟩⟩

/-- An operator that is declared twice in one declaration, one that a later declaration of the same
list declares again, and one that the second list does; a precedence that is too large behind
them. -/
theorem readFixities_redeclared_thrice :
    (readFixities [.text "infixl 5 +, -, +", .text "infixr 2 -"]).outcome =
        .ok [("+", ⟨some .left, 5, 5⟩), ("-", ⟨some .right, 2, 2⟩)] ∧
      (readFixities [.text "infix 4 *, +"]).outcome =
        .ok [("*", ⟨some .neither, 4, 4⟩), ("+", ⟨some .neither, 4, 4⟩)] ∧
      (readFixities [.text "infixl 5 +, -, +", .text "infixr 2 -",
          .text "infix 4 *, +"]).outcome =
        .ok [("+", ⟨some .neither, 4, 4⟩), ("-", ⟨some .right, 2, 2⟩), ("*", ⟨some .neither, 4, 4⟩)] ∧
      ∃ error : ConfigError,
        error.message = (Declaration.Stop.report "infix 10 +"
          ⟨"10 +".toList, .precedenceTooLarge⟩).pretty ∧
        ∀ after, (readFixities (.text "infixl 5 +, -, +" :: .text "infixr 2 -" ::
          .text "infix 10 +" :: after)).outcome = .error (.refused error) := by
  obtain ⟨happend, -, herror⟩ :=
    readFixities_redeclared [.text "infixl 5 +, -, +", .text "infixr 2 -"]
  have hfirst : (readFixities [.text "infixl 5 +, -, +", .text "infixr 2 -"]).outcome =
      .ok [("+", ⟨some .left, 5, 5⟩), ("-", ⟨some .right, 2, 2⟩)] :=
    eq_ok_of_toOption (by decide +kernel)
  have hsecond : (readFixities [.text "infix 4 *, +"]).outcome =
      .ok [("*", ⟨some .neither, 4, 4⟩), ("+", ⟨some .neither, 4, 4⟩)] :=
    eq_ok_of_toOption (by decide +kernel)
  have hread : ∀ e ∈ [Value.text "infixl 5 +, -, +", .text "infixr 2 -"], ∃ pairs,
      (Declaration.parseLogged (declarationText e)).outcome = .ok pairs := by
    simp only [Declaration.outcome_parseLogged]
    exact List.forall_mem_cons.2
      ⟨⟨[("+", ⟨some .left, 5, 5⟩), ("-", ⟨some .left, 5, 5⟩), ("+", ⟨some .left, 5, 5⟩)],
          by decide +kernel⟩,
        List.forall_mem_cons.2 ⟨⟨[("-", ⟨some .right, 2, 2⟩)], by decide +kernel⟩, nofun⟩⟩
  have hlarge : (Declaration.parseLogged "infix 10 +").outcome =
      .error (.malformed ⟨"10 +".toList, .precedenceTooLarge⟩) := by
    rw [Declaration.outcome_parseLogged]
    decide +kernel
  exact ⟨hfirst, hsecond, happend _ _ _ hfirst hsecond,
    herror (.text "infix 10 +") _ hread hlarge⟩

end FormatterConfig.ConfigFile
