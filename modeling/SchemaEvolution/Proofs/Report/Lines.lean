import Mathlib
import SchemaEvolution.Proofs.Json.Records
import SchemaEvolution.Proofs.Json.RoundTrip
import SchemaEvolution.Report.Codec

/-! # Reports line by line

A report with one record a line loses nothing: whoever cuts the text at its line breaks gets the
findings back in their order, whatever characters they hold, and a summary that counts them
(`json_lines_are_lossless`).  The text of a value holds no control character at all
(`Json.visible_write`), since strings escape them and nothing else writes one.
-/

namespace SchemaEvolution

namespace Json

section Visibility

/-- Whether a text is without control characters. -/
def Visible (cs : List Char) : Prop := ∀ c ∈ cs, 0x20 ≤ c.toNat

variable {cs rest : List Char}

theorem Visible.cons {c : Char} (visible : 0x20 ≤ c.toNat) (others : Visible rest) :
    Visible (c :: rest) := List.forall_mem_cons.mpr ⟨visible, others⟩

theorem Visible.append (visible : Visible cs) (others : Visible rest) : Visible (cs ++ rest) :=
  List.forall_mem_append.mpr ⟨visible, others⟩

theorem Visible.line_break_not_mem (visible : Visible cs) : '\n' ∉ cs := fun member =>
  absurd (visible _ member) (by decide)

theorem visible_of_isWord {c : Char} (word : isWord c = true) : 0x20 ≤ c.toNat := by
  simp only [isWord, Char.isAlphanum, Char.isAlpha, Char.isUpper, Char.isLower, Char.isDigit,
    Bool.or_eq_true, Bool.and_eq_true, decide_eq_true_eq, UInt32.le_iff_toNat_le, ge_iff_le] at word
  change (((((65 ≤ c.toNat ∧ _) ∨ 97 ≤ c.toNat ∧ _) ∨ 48 ≤ c.toNat ∧ _) ∨ _) ∨ _) ∨ _ at word
  obtain (((((upper | lower) | digit) | rfl) | rfl) | rfl) := word
  · omega
  · omega
  · omega
  all_goals decide

theorem isWord_hexChar {n : Nat} (small : n < 16) : isWord (hexChar n) = true := by
  interval_cases n <;> decide

/-- A control character is spelled out. -/
theorem visible_escape (c : Char) : Visible (escape c) := by
  unfold escape
  split_ifs with quote backslash back tab line form carriage control
  iterate 7 · simp [Visible]
  · have high := visible_of_isWord (isWord_hexChar (show c.toNat / 16 < 16 by omega))
    have low := visible_of_isWord (isWord_hexChar (show c.toNat % 16 < 16 by omega))
    have front : Visible ['\\', 'u', '0', '0'] := by simp [Visible]
    exact front.append (.cons high (.cons low nofun))
  · exact .cons (Nat.not_lt.mp control) nofun

theorem visible_writeString (s : String) (others : Visible rest) :
    Visible (writeString s rest) := by
  refine .cons (by decide) ?_
  induction s.toList with
  | nil => exact .cons (by decide) others
  | cons c cs ih => exact (visible_escape c).append ih

theorem visible_writeItems {items : List Json}
    (each : ∀ v ∈ items, ∀ rest, Visible rest → Visible (write v rest)) (others : Visible rest) :
    Visible (writeItems items rest) := by
  induction items with
  | nil => exact others
  | cons v items ih =>
      obtain ⟨first, after⟩ := List.forall_mem_cons.mp each
      exact .cons (by decide) (first _ (ih after))

theorem visible_writeMembers {members : Members}
    (each : ∀ m ∈ members, ∀ rest, Visible rest → Visible (write m.2 rest))
    (others : Visible rest) : Visible (writeMembers members rest) := by
  induction members with
  | nil => exact others
  | cons m members ih =>
      obtain ⟨first, after⟩ := List.forall_mem_cons.mp each
      exact .cons (by decide) (visible_writeString m.1 (.cons (by decide) (first _ (ih after))))

/-- A value is written without control characters. -/
theorem visible_write {depth : Nat} {v : Json} (fits : Fits depth v) (others : Visible rest) :
    Visible (write v rest) := by
  induction fits generalizing rest with
  | null => exact .append (show Visible ['n', 'u', 'l', 'l'] by simp [Visible]) others
  | bool value =>
      cases value with
      | true => exact .append (show Visible ['t', 'r', 'u', 'e'] by simp [Visible]) others
      | false => exact .append (show Visible ['f', 'a', 'l', 's', 'e'] by simp [Visible]) others
  | integer word =>
      exact .append (fun c member => visible_of_isWord (isWord_of_mem_writeInt member)) others
  | string text => exact visible_writeString text others
  | @array depth items fit ih =>
      have closed : Visible (']' :: rest) := .cons (by decide) others
      cases items with
      | nil => exact .cons (by decide) closed
      | cons v items =>
          obtain ⟨first, after⟩ := List.forall_mem_cons.mp ih
          exact .cons (by decide)
            (first (visible_writeItems (fun w member rest => after w member) closed))
  | @object depth members fit ih =>
      have closed : Visible ('\x7d' :: rest) := .cons (by decide) others
      cases members with
      | nil => exact .cons (by decide) closed
      | cons m members =>
          obtain ⟨first, after⟩ := List.forall_mem_cons.mp ih
          exact .cons (by decide) (visible_writeString m.1 (.cons (by decide)
            (first (visible_writeMembers (fun n member rest => after n member) closed))))

theorem line_break_not_mem_compact {depth : Nat} {v : Json} (fits : Fits depth v) :
    '\n' ∉ v.compact.toList := by
  rw [compact, String.toList_ofList]
  exact (visible_write fits (List.forall_mem_nil _)).line_break_not_mem

end Visibility

end Json

section Findings

theorem RuleId.ofJson?_text (id : RuleId) : ofJson? (.string id.text) = some id := by
  cases id <;> rfl

theorem Severity.ofJson?_text (s : Severity) : ofJson? (.string s.text) = some s := by
  cases s <;> rfl

namespace Finding

/-- The fields of a finding that is written are in the order of declaration; some may be absent. -/
theorem keys_toMembers (f : Finding) : (f.toMembers.map Prod.fst).Sublist fields := by
  obtain ⟨rule, severity, path, typeName, message, oldValue, newValue, escalated, affected⟩ := f
  cases oldValue <;> cases newValue <;> cases escalated <;> cases affected <;>
    simp [toMembers, fields]

/-- A member that may be absent stands for the value that it is left out for. -/
theorem read_toMembers (f : Finding) :
    f.toMembers.optional? "old_value" Json.string? = some f.oldValue ∧
      f.toMembers.optional? "new_value" Json.string? = some f.newValue ∧
      f.toMembers.withDefault? "escalated" false Json.bool? = some f.escalated ∧
      f.toMembers.withDefault? "affected" [] (Json.list? Json.string?) = some f.affected := by
  obtain ⟨rule, severity, path, typeName, message, oldValue, newValue, escalated, affected⟩ := f
  have list := Json.list?_strings affected
  cases oldValue <;> cases newValue <;> cases escalated <;> cases affected <;>
    exact ⟨rfl, rfl, rfl, list⟩

theorem ofJson?_of_toMembers {f : Finding} {v : Json}
    (read : Json.record? fields false v = some f.toMembers) : ofJson? v = some f := by
  have rule : f.toMembers.required? "rule" RuleId.ofJson? = some f.rule :=
    RuleId.ofJson?_text f.rule
  have severity : f.toMembers.required? "severity" Severity.ofJson? = some f.severity :=
    Severity.ofJson?_text f.severity
  have path : f.toMembers.required? "path" Json.string? = some f.path := rfl
  have typeName : f.toMembers.required? "type_name" Json.string? = some f.typeName := rfl
  have message : f.toMembers.required? "message" Json.string? = some f.message := rfl
  obtain ⟨oldValue, newValue, escalated, affected⟩ := f.read_toMembers
  simp [ofJson?, read, rule, severity, path, typeName, message, oldValue, newValue, escalated,
    affected]

/-- A finding reads back from its record.  What kind of record it is, is no field of it. -/
theorem ofJson?_findingRecord (f : Finding) : ofJson? (Report.findingRecord f) = some f := by
  refine ofJson?_of_toMembers ?_
  rw [Report.findingRecord, Json.record?_cons_of_unknown (by decide)]
  exact Json.record?_of_known (f.keys_toMembers.nodup (by decide)) f.keys_toMembers.subset

end Finding

end Findings

section Summaries

/-- Whether the numbers of a report fit into the words that they are counted in. -/
structure Report.InWords (r : Report) : Prop where
  findings : (r.findings.length : Int) ≤ Digits.word64Max
  added : (r.stats.added : Int) ≤ Digits.word64Max
  removed : (r.stats.removed : Int) ≤ Digits.word64Max
  modified : (r.stats.modified : Int) ≤ Digits.word64Max

variable {depth : Nat}

namespace Report

theorem fits_findingRecord (f : Finding) : Json.Fits (depth + 2) (findingRecord f) := by
  refine .object ?_
  rw [Finding.toMembers]
  cases f.oldValue <;> cases f.newValue <;> cases f.escalated <;> cases f.affected.isEmpty <;>
    simp [Json.Fits.string, Json.Fits.bool, Json.fits_strings]

theorem breakingCount_le (r : Report) : r.breakingCount ≤ r.findings.length :=
  List.countP_le_length

theorem breakingCount_add_advisoryCount (r : Report) :
    r.breakingCount + r.advisoryCount = r.findings.length := by
  have bound := r.breakingCount_le
  unfold advisoryCount
  omega

/-- Whatever is not breaking is advisory. -/
theorem advisoryCount_eq (r : Report) :
    r.advisoryCount = r.findings.countP fun f => f.severity == .advisory := by
  have others : r.findings.countP (fun f => f.severity == .advisory) =
      r.findings.countP fun f => decide (¬f.isBreaking = true) := by
    congr 1
    funext f
    rw [Finding.isBreaking]
    cases f.severity <;> rfl
  have parts : r.findings.length =
      r.breakingCount + r.findings.countP fun f => decide (¬f.isBreaking = true) :=
    List.length_eq_countP_add_countP _
  rw [advisoryCount, others]
  omega

theorem fits_summaryRecord {r : Report} (words : r.InWords) :
    Json.Fits (depth + 2) r.summaryRecord := by
  have counted {n : Nat} (bound : n ≤ r.findings.length) : Json.Fits (depth + 1) (.nat n) := by
    have wide := words.findings
    exact Json.fits_nat (by omega)
  have breaking := counted r.breakingCount_le
  have advisory := counted (show r.advisoryCount ≤ r.findings.length from Nat.sub_le _ _)
  have stats : Json.Fits (depth + 1) r.stats.toJson := by
    refine .object ?_
    simp [Json.fits_nat, words.added, words.removed, words.modified]
  have versions : ∀ m ∈ r.versionMember, Json.Fits (depth + 1) m.2 := by
    unfold versionMember
    split
    case h_1 => nofun
    case h_2 check _ =>
      refine List.forall_mem_singleton.mpr (.object ?_)
      simp [Json.Fits.string, Json.Fits.bool]
  refine .object ?_
  rw [List.forall_mem_append, List.forall_mem_append]
  refine ⟨⟨?_, versions⟩, ?_⟩
  · simp [Json.Fits.string, Json.Fits.bool, breaking, advisory, stats]
  · simp [Json.Fits.string]

end Report

end Summaries

/-- The lines of a report hold no line break, read back as its findings in their order, and end with
    a summary that counts the breaking and the advisory ones among them. -/
theorem json_lines_are_lossless {r : Report} (words : r.InWords) :
    ∃ (front : List String) (last : String),
      r.jsonLines = String.join ((front ++ [last]).map (· ++ "\n")) ∧
      front.length = r.findings.length ∧
      (∀ line ∈ front ++ [last], '\n' ∉ line.toList) ∧
      front.map (fun line => (Json.parse? line).bind Finding.ofJson?) = r.findings.map some ∧
      ∃ (summary : Json) (breaking advisory : Nat), Json.parse? last = some summary ∧
        summary.member? "record" = some (.string "summary") ∧
        summary.member? "breaking" = some (.nat breaking) ∧
        summary.member? "advisory" = some (.nat advisory) ∧
        breaking + advisory = front.length ∧
        breaking = r.findings.countP Finding.isBreaking ∧
        advisory = r.findings.countP fun f => f.severity == .advisory := by
  have fitsFinding (f : Finding) : Json.Fits Json.Assembly.maxDepth (Report.findingRecord f) :=
    Report.fits_findingRecord f
  have fitsSummary : Json.Fits Json.Assembly.maxDepth r.summaryRecord :=
    Report.fits_summaryRecord words
  refine ⟨r.findings.map fun f => (Report.findingRecord f).compact, r.summaryRecord.compact,
    ?_, List.length_map _, ?_, ?_, r.summaryRecord, r.breakingCount, r.advisoryCount,
    Json.parse?_compact fitsSummary, rfl, rfl, rfl, ?_, rfl, r.advisoryCount_eq⟩
  · simp [Report.jsonLines, Report.records, Function.comp_def]
  · rw [List.forall_mem_append, List.forall_mem_map, List.forall_mem_singleton]
    exact ⟨fun f _ => Json.line_break_not_mem_compact (fitsFinding f),
      Json.line_break_not_mem_compact fitsSummary⟩
  · rw [List.map_map, List.map_inj_left]
    intro f _
    rw [Function.comp_apply, Json.parse?_compact (fitsFinding f), Option.bind_some,
      Finding.ofJson?_findingRecord]
  · rw [List.length_map, r.breakingCount_add_advisoryCount]

/-- A finding with a line break, a quote, a backslash and a control character in its message. -/
def brokenRemark : Finding :=
  { rule := .typeChange, severity := .breaking, path := "shop.Order.id", typeName := "shop.Order",
    message := "line\none \"two\" \\ \x07", oldValue := some "int32", newValue := some "a\r\nb",
    escalated := true, affected := ["shop.Cart", "shop\nBasket"] }

/-- A report with a finding that has every member, and one that has only those that it needs. -/
def remarkable : Report :=
  { verdict := .fail, complete := true,
    findings := [brokenRemark, ⟨.fieldCount, .advisory, "", "", "\u2028", none, none, false, []⟩],
    stats := ⟨1, 2, 3⟩, base := ⟨"old", ⟨"00"⟩, none, 4⟩,
    candidate := ⟨"new", ⟨"ff"⟩, some (.release 1 2 3), 5⟩, requiredBump := .major,
    versionCheck := none, generatedAt := .epoch }

theorem remarkable_reads_back :
    remarkable.InWords ∧ ∃ (front : List String) (last : String),
      remarkable.jsonLines = String.join ((front ++ [last]).map (· ++ "\n")) ∧
      front.length = 2 ∧
      front.map (fun line => (Json.parse? line).bind Finding.ofJson?) =
        remarkable.findings.map some ∧
      ∃ summary, Json.parse? last = some summary ∧
        summary.member? "breaking" = some (.nat 1) ∧
        summary.member? "advisory" = some (.nat 1) := by
  have words : remarkable.InWords := ⟨by decide, by decide, by decide, by decide⟩
  obtain ⟨front, last, joined, length, -, read, summary, breaking, advisory, parsed, -, breaks,
    advises, -, rfl, rfl⟩ := json_lines_are_lossless words
  exact ⟨words, front, last, joined, length, read, summary, parsed, breaks, advises⟩

end SchemaEvolution
