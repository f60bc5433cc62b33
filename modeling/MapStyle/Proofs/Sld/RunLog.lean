import MapStyle.Proofs.Sld.Unsupported

/-!
# The log of a run

A run reports that it starts, then every filter that cannot be understood, and at the end either the
document or the symbolizer that stopped it. The records about filters are those of the rules that
were begun: of all rules if there is a document, and else of those up to the one where the run
stopped. Main statement: `Style.log_exact`.
-/

namespace MapStyle

open Sld

/-- What is reported about a rule: its filter, if it cannot be understood. -/
def Rule.reports (rule : Rule) (index : Nat) : List Log.Entry :=
  match rule.filter.map Filter.translate with
  | some (.unparsable raw) =>
    [Log.debug ("No comparison operator found in filter '" ++ raw ++ "'"),
     Log.warn ("Rule " ++ toString (index + 1) ++ ": could not parse filter '" ++ raw ++ "'")]
  | _ => []

/-- What is reported about rules, one after the other. -/
def Style.reports (rules : List Rule) : List Log.Entry :=
  rules.zipIdx.flatMap fun (rule, index) => rule.reports index

/-- The record that goes with a warning. -/
def Sld.Warning.record (warning : Warning) : Log.Entry :=
  Log.warn ("Rule " ++ toString (warning.rule + 1) ++ ": could not parse filter '" ++
    warning.expression ++ "'")

/-- The records of a level. -/
def Log.ofLevel (level : Level) (log : List Entry) : List Entry :=
  log.filter fun entry => entry.level = level

namespace Log

variable {level : Level}

theorem ofLevel_append (log rest : List Entry) :
    ofLevel level (log ++ rest) = ofLevel level log ++ ofLevel level rest :=
  List.filter_append ..

theorem ofLevel_debug_cons (text : String) (log : List Entry) (other : level ≠ .debug) :
    ofLevel level (debug text :: log) = ofLevel level log :=
  List.filter_cons_of_neg fun same => other (of_decide_eq_true same).symm

end Log

/-! ## Records about filters -/

namespace Rule

theorem filterRecords_eq (rule : Rule) (index : Nat) :
    rule.filterRecords index = rule.reports index := by
  rw [filterRecords, reports, translation]
  cases rule.filter.map Filter.translate with
  | none => rfl
  | some meaning => cases meaning <;> rfl

/-- There is one warning record for each warning. -/
theorem ofLevel_warn_filterRecords (rule : Rule) (index : Nat) :
    Log.ofLevel .warn (rule.filterRecords index) = (rule.warnings index).map Warning.record := by
  rw [filterRecords, warnings]
  cases rule.translation <;> rfl

theorem ofLevel_error_filterRecords (rule : Rule) (index : Nat) :
    Log.ofLevel .error (rule.filterRecords index) = [] := by
  rw [filterRecords]
  cases rule.translation <;> rfl

end Rule

namespace Style

theorem recordsFrom_eq (index : Nat) (rules : List Rule) :
    recordsFrom index rules =
      (rules.zipIdx index).flatMap fun (rule, index) => rule.reports index := by
  induction rules generalizing index with
  | nil => rfl
  | cons rule rest ih =>
    rw [recordsFrom, List.zipIdx_cons, List.flatMap_cons, ih, rule.filterRecords_eq]

theorem recordsFrom_append (index : Nat) (xs ys : List Rule) :
    recordsFrom index (xs ++ ys) = recordsFrom index xs ++ recordsFrom (index + xs.length) ys := by
  rw [recordsFrom_eq, recordsFrom_eq, recordsFrom_eq, List.zipIdx_append, List.flatMap_append]

theorem ofLevel_warn_recordsFrom (index : Nat) (rules : List Rule) :
    Log.ofLevel .warn (recordsFrom index rules) =
      (warningsFrom index rules).map Warning.record := by
  induction rules generalizing index with
  | nil => rfl
  | cons rule rest ih =>
    rw [recordsFrom, warningsFrom, Log.ofLevel_append, List.map_append, ih,
      rule.ofLevel_warn_filterRecords]

theorem ofLevel_error_recordsFrom (index : Nat) (rules : List Rule) :
    Log.ofLevel .error (recordsFrom index rules) = [] := by
  induction rules generalizing index with
  | nil => rfl
  | cons rule rest ih =>
    rw [recordsFrom, Log.ofLevel_append, ih, rule.ofLevel_error_filterRecords, List.append_nil]

/-! ## The end of a run -/

/-- What a run reports, of a level other than that of its first record. -/
theorem ofLevel_run {level : Log.Level} (other : level ≠ .debug) (style : Style)
    (rules : List Rule) (last : Log.Entry) :
    Log.ofLevel level (style.startRecord :: (recordsFrom 0 rules ++ [last])) =
      Log.ofLevel level (recordsFrom 0 rules) ++ Log.ofLevel level [last] :=
  (Log.ofLevel_debug_cons _ _ other).trans (Log.ofLevel_append _ _)

/-- The record of a finished document is none of those about filters. -/
theorem completeRecord_not_mem_filterRecords (document : Document) (rule : Rule) (index : Nat) :
    completeRecord document ∉ rule.filterRecords index := by
  rw [Rule.filterRecords]
  split
  · simp only [Rule.unparsableRecords, List.mem_cons, List.not_mem_nil, or_false]
    rintro (debug | warn)
    · have first := congrArg (fun entry => entry.text.toList[0]?) debug
      simp [completeRecord, Log.debug] at first
    · cases congrArg Log.Entry.level warn
  · exact List.not_mem_nil

theorem completeRecord_not_mem_recordsFrom (document : Document) (index : Nat) (rules : List Rule) :
    completeRecord document ∉ recordsFrom index rules := by
  induction rules generalizing index with
  | nil => exact List.not_mem_nil
  | cons rule rest ih =>
    rw [recordsFrom, List.mem_append, not_or]
    exact ⟨completeRecord_not_mem_filterRecords document rule index, ih (index + 1)⟩

theorem completeRecord_ne_startRecord (document : Document) (style : Style) :
    completeRecord document ≠ style.startRecord := by
  intro same
  have second := congrArg (fun entry => entry.text.toList[1]?) same
  simp [completeRecord, startRecord, Log.debug] at second

/-- What is reported by a run that stops at the first symbolizer of an unknown kind. -/
theorem log_unsupported {style : Style} {before after : List Rule} {rule : Rule}
    {xs ys : List Symbolizer} {json : Json} (rules : style.rules = before ++ rule :: after)
    (known : ∀ r ∈ before, ∀ symbolizer ∈ r.symbolizers, symbolizer.isUnsupported = false)
    (symbolizers : rule.symbolizers = xs ++ .unsupported json :: ys)
    (knownInside : ∀ symbolizer ∈ xs, symbolizer.isUnsupported = false) (layer : Option String) :
    (style.compile layer).log =
      style.startRecord :: (recordsFrom 0 (before ++ [rule]) ++
        [Rule.unsupportedRecord before.length (Symbolizer.unsupported json).kind]) := by
  have written := writeRules_append 0 known (rule :: after) (style.writeHead layer style.begin)
  rw [← rules, writeRules, Rule.write_unsupported rule _ _ knownInside symbolizers] at written
  rw [compile, written, recordsFrom_append]
  simp [recordsFrom, Rule.opened, Progress.record, Progress.write, Progress.extend,
    Progress.openElement, writeHead, begin]

/-- A run reports that it starts and how many rules there are. Then come the records about the
    filters that cannot be understood, two for each and in the order of the rules. If there is a
    document, these are of all rules, and its size in bytes and the number of its warnings come
    last; there is no error record, and the warning records are those of the warnings, one for each
    and in their order. If the run stops, they are of the rules up to the one where it stops, and
    the last record, the only error, names that rule and the kind of its symbolizer; there is no
    record of a finished document. -/
theorem log_exact (style : Style) (layer : Option String) :
    (∃ document, (style.compile layer).outcome = .ok document ∧
        (style.compile layer).log =
          Log.debug ("Starting SLD export for style with " ++ toString style.rules.length ++
            " rules") ::
          (reports style.rules ++
            [Log.debug ("SLD export complete: " ++ toString document.text.utf8ByteSize ++
              " bytes, " ++ toString document.warnings.length ++ " warnings")]) ∧
        Log.ofLevel .warn (style.compile layer).log = document.warnings.map Warning.record ∧
        Log.ofLevel .error (style.compile layer).log = []) ∨
      ∃ i j rule json kind, style.rules[i]? = some rule ∧
        rule.symbolizers[j]? = some (.unsupported json) ∧
        kind = (Symbolizer.unsupported json).kind ∧
        (style.compile layer).outcome = .error (.unsupportedSymbolizer kind i rule.label j) ∧
        (style.compile layer).log =
          Log.debug ("Starting SLD export for style with " ++ toString style.rules.length ++
            " rules") ::
          (reports (style.rules.take (i + 1)) ++
            [Log.error ("Rule " ++ toString (i + 1) ++ ": " ++
              ("No renderer for symbolizer type '" ++ kind ++ "'"))]) ∧
        Log.ofLevel .error (style.compile layer).log =
          [Log.error ("Rule " ++ toString (i + 1) ++ ": " ++
            ("No renderer for symbolizer type '" ++ kind ++ "'"))] ∧
        ∀ document, completeRecord document ∉ (style.compile layer).log := by
  by_cases known : style.Supported
  · left
    have whole := compile_supported known layer
    refine ⟨_, congrArg Run.outcome whole, ?_, ?_, ?_⟩
    · rw [whole, reports, ← recordsFrom_eq]
      rfl
    · rw [whole]
      refine (ofLevel_run (by decide) _ _ _).trans ?_
      rw [ofLevel_warn_recordsFrom]
      exact List.append_nil _
    · rw [whole]
      refine (ofLevel_run (by decide) _ _ _).trans ?_
      rw [ofLevel_error_recordsFrom]
      rfl
  · right
    obtain ⟨before, rule, after, xs, json, ys, rules, clean, symbolizers, cleanInside⟩ :=
      exists_first_unsupported known
    have log := log_unsupported rules clean symbolizers cleanInside layer
    have begun : style.rules.take (before.length + 1) = before ++ [rule] := by
      rw [rules, List.take_length_add_append, List.take_succ_cons, List.take_zero]
    refine ⟨before.length, xs.length, rule, json, _, by simp [rules], by simp [symbolizers], rfl,
      compile_unsupported rules clean symbolizers cleanInside layer, ?_, ?_, ?_⟩
    · rw [log, begun, reports, ← recordsFrom_eq]
      rfl
    · rw [log]
      refine (ofLevel_run (by decide) _ _ _).trans ?_
      rw [ofLevel_error_recordsFrom]
      rfl
    · intro document
      rw [log, List.mem_cons, List.mem_append, List.mem_singleton]
      rintro (start | filters | stop)
      · exact completeRecord_ne_startRecord document style start
      · exact completeRecord_not_mem_recordsFrom document 0 _ filters
      · cases congrArg Log.Entry.level stop

/-- A rule with a filter that cannot be understood and with a symbolizer of an unknown kind. -/
def halting : Rule :=
  { filter := some "é"
    symbolizers := [.line {}, .unsupported (.object [("type", .string "circle")])] }

/-- A style whose third rule stops the run; the filters of the rules around it cannot be understood
    either. -/
def halted : Style :=
  { featureTypeStyle :=
      { rules :=
          [{ filter := some "a = b" }, { name := some "'", filter := some "region" }, halting,
           { filter := some "later" }] } }

theorem log_exact_halted :
    (halted.compile none).outcome = .error (.unsupportedSymbolizer "circle" 2 "unnamed" 1) ∧
      (halted.compile none).log =
        [Log.debug "Starting SLD export for style with 4 rules",
         Log.debug "No comparison operator found in filter 'region'",
         Log.warn "Rule 2: could not parse filter 'region'",
         Log.debug "No comparison operator found in filter 'é'",
         Log.warn "Rule 3: could not parse filter 'é'",
         Log.error "Rule 3: No renderer for symbolizer type 'circle'"] := by
  have rules : halted.rules = [_, _] ++ halting :: [_] := rfl
  have symbolizers : halting.symbolizers = [.line {}] ++ .unsupported _ :: [] := rfl
  have stopped : (halted.compile none).outcome =
      .error (.unsupportedSymbolizer "circle" 2 "unnamed" 1) :=
    compile_unsupported rules (by decide) symbolizers (by decide) none
  refine ⟨stopped, ?_⟩
  rcases log_exact halted none with
    ⟨document, made, -⟩ | ⟨i, j, rule, json, kind, -, -, -, made, log, -⟩
  · cases stopped.symm.trans made
  · have same := Except.error.inj (stopped.symm.trans made)
    injection same with kinds rules labels symbolizers
    subst kinds rules
    rw [log]
    decide +kernel

end Style

end MapStyle
