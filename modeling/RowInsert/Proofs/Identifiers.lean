import RowInsert.Proofs.ReadBack

/-!
# What quoting guarantees

A quoter between texts is a pair of marks, and what it guarantees is a matter of the closing one.

* `Delimiters.ReadsBack` says that every identifier can be read from its quotation, whatever
  follows it; `Delimiters.readsBack_iff` settles for which closing marks it holds: those that do not
  overlap themselves.
* `Compiler.quoted_apart` : identifiers are kept apart by every closing mark, so that no column is
  listed twice in a statement.
-/

namespace RowInsert

namespace Identifier

theorem enquote_injective (opening closing : List Char) :
    Function.Injective (enquote opening closing) := by
  intro s t h
  unfold enquote at h
  rw [List.append_assoc, List.append_assoc] at h
  have hinside : double closing s ++ closing = double closing t ++ closing :=
    List.append_cancel_left h
  exact double_injective closing (List.append_cancel_right hinside)

theorem check_ok {name : String} (hname : name.toList ≠ []) (hnul : '\x00' ∉ name.toList) :
    check name = .ok () := by
  unfold check
  rw [if_neg (by simpa using hname), if_neg (by simpa using hnul)]

end Identifier

/-! ### Reading quoted identifiers -/

namespace Delimiters

/-- Whatever is quoted is a text, and is read from its quotation, whatever follows that and does not
begin with the closing mark. -/
def ReadsBack (d : Delimiters) (opening closing : String) : Prop :=
  ∀ v r, d.quote v = .ok r → ∃ name quoted, v.text? = some name ∧ r = .text quoted ∧
    ∀ tail : List Char, ¬ closing.toList <+: tail →
      Statement.readName opening.toList closing.toList (quoted.toList ++ tail) =
        some (name.toList, tail)

variable {d : Delimiters} {opening closing : String}

theorem readsBack_of_borderFree (hd : d.AreTexts opening closing) (hne : closing.toList ≠ [])
    (hb : Identifier.BorderFree closing.toList) : d.ReadsBack opening closing := by
  intro v r h
  obtain ⟨name, hname, -, rfl⟩ := hd.quote_ok h
  refine ⟨name, _, hname, rfl, fun tail htail => ?_⟩
  rw [String.toList_ofList, Statement.readName_append]
  exact Identifier.readQuoted_double hne hb htail name.toList

/-- A closing mark that overlaps itself ends the quotation of some identifier too early, with
nothing behind it. -/
theorem exists_broken (hd : d.AreTexts opening closing) (hnul : '\x00' ∉ closing.toList)
    (hb : ¬ Identifier.BorderFree closing.toList) :
    ∃ name quoted, d.quote (.text name) = .ok (.text quoted) ∧
      Statement.readName opening.toList closing.toList quoted.toList ≠ some (name.toList, []) := by
  obtain ⟨s, hne, hmem, hread⟩ := Identifier.readQuoted_overlap hb
  have hcheck : Identifier.check (String.ofList s) = .ok () := by
    apply Identifier.check_ok
    · rwa [String.toList_ofList]
    · rw [String.toList_ofList]
      exact fun h => hnul (hmem _ h)
  have hquote := quote_eq hd.opening_eq hd.closing_eq (Value.text?_text (String.ofList s))
  rw [hcheck] at hquote
  refine ⟨String.ofList s, _, hquote, ?_⟩
  have hread' := Statement.readName_append opening.toList closing.toList s []
  rw [List.append_nil, List.append_nil] at hread'
  rwa [String.toList_ofList, String.toList_ofList, hread']

/-- **An identifier cannot end its own quoting just if the closing mark does not overlap itself.**
So every single character is a safe mark, those of the standard quoters among them, and every mark
that overlaps itself is broken by some identifier. -/
theorem readsBack_iff :
    (∀ {d : Delimiters} {opening closing : String}, d.AreTexts opening closing → closing ≠ "" →
      '\x00' ∉ closing.toList →
      (d.ReadsBack opening closing ↔ Identifier.BorderFree closing.toList)) ∧
    (∀ {d : Delimiters} {opening : String} {c : Char},
      d.AreTexts opening (String.singleton c) → d.ReadsBack opening (String.singleton c)) ∧
    (∀ d ∈ [Delimiters.ansi, .mysql, .mssql], ∃ opening closing,
      d.AreTexts opening closing ∧ d.ReadsBack opening closing) ∧
    ∀ {d : Delimiters} {opening closing : String}, d.AreTexts opening closing →
      '\x00' ∉ closing.toList → ¬ Identifier.BorderFree closing.toList →
      ∃ name quoted, d.quote (.text name) = .ok (.text quoted) ∧
        Statement.readName opening.toList closing.toList quoted.toList ≠
          some (name.toList, []) := by
  have hsingle {d : Delimiters} {opening : String} {c : Char}
      (hd : d.AreTexts opening (String.singleton c)) :
      d.ReadsBack opening (String.singleton c) := by
    apply readsBack_of_borderFree hd
    · rw [String.toList_singleton]
      exact List.cons_ne_nil c []
    · rw [String.toList_singleton]
      exact Identifier.borderFree_singleton c
  refine ⟨?_, hsingle, ?_, exists_broken⟩
  · intro d opening closing hd hne hnul
    have hmark : closing.toList ≠ [] := by simpa using hne
    constructor
    · intro hreads
      by_contra hb
      obtain ⟨name, quoted, hquote, hbroken⟩ := exists_broken hd hnul hb
      obtain ⟨name', quoted', hname, hquoted, htail⟩ := hreads _ _ hquote
      cases hname
      cases hquoted
      -- Nothing follows, and nothing does not begin with the mark.
      have hread := htail [] (mt List.prefix_nil.1 hmark)
      rw [List.append_nil] at hread
      exact hbroken hread
    · exact readsBack_of_borderFree hd hmark
  · rintro d hd
    simp only [List.mem_cons, List.not_mem_nil, or_false] at hd
    rcases hd with rfl | rfl | rfl
    · exact ⟨"\"", String.singleton '"', ⟨rfl, rfl⟩, hsingle ⟨rfl, rfl⟩⟩
    · exact ⟨"\x60", String.singleton '\x60', ⟨rfl, rfl⟩, hsingle ⟨rfl, rfl⟩⟩
    · exact ⟨"[", String.singleton ']', ⟨rfl, rfl⟩, hsingle ⟨rfl, rfl⟩⟩

/-- Two equal quotes overlap, and a quote with a bar does not. -/
theorem readsBack_iff_two :
    ¬ (⟨.text "<", .text "''"⟩ : Delimiters).ReadsBack "<" "''" ∧
      (⟨.text "<", .text "'|"⟩ : Delimiters).ReadsBack "<" "'|" ∧
      Delimiters.ansi.ReadsBack "\"" "\"" ∧
      ∃ name quoted, (⟨.text "<", .text "''"⟩ : Delimiters).quote (.text name) =
          .ok (.text quoted) ∧
        Statement.readName ['<'] ['\'', '\''] quoted.toList ≠ some (name.toList, []) := by
  obtain ⟨hiff, hsingle, -, hbroken⟩ := readsBack_iff
  have hoverlap : ¬ Identifier.BorderFree "''".toList := by
    intro h
    rcases h ['\''] (by decide) (by decide) with h | h
    · cases h
    · exact absurd h (by decide)
  have hfree : Identifier.BorderFree "'|".toList := by
    intro w hw hsuffix
    obtain ⟨rest, hrest⟩ := hw
    match w, hrest, hsuffix with
    | [], _, _ => exact .inl rfl
    | [_], hrest, hsuffix =>
      cases hrest
      exact absurd hsuffix (by decide)
    | [_, _], hrest, _ =>
      cases hrest
      exact .inr rfl
    | _ :: _ :: _ :: _, hrest, _ => cases hrest
  refine ⟨?_, ?_, ?_, ?_⟩
  · rw [hiff ⟨rfl, rfl⟩ (by decide) (by decide)]
    exact hoverlap
  · rw [hiff ⟨rfl, rfl⟩ (by decide) (by decide)]
    exact hfree
  · exact hsingle (d := .ansi) (c := '"') ⟨rfl, rfl⟩
  · exact hbroken (d := ⟨.text "<", .text "''"⟩) ⟨rfl, rfl⟩ (by decide) hoverlap

end Delimiters

/-! ### Keeping identifiers apart -/

/-- What is related to items of distinct images is distinct, if nothing is related to two images. -/
theorem nodup_of_forall₂ {α β γ : Type} {R : α → β → Prop} {f : α → γ} {l : List α} {r : List β}
    (hone : ∀ a a' b, R a b → R a' b → f a = f a') (h : List.Forall₂ R l r)
    (hl : (l.map f).Nodup) : r.Nodup := by
  obtain ⟨hlength, hrelated⟩ := List.forall₂_iff_get.1 h
  have hdistinct := List.pairwise_iff_getElem.1 hl
  refine List.pairwise_iff_getElem.2 fun i j hi hj hij heq => ?_
  have hi' : i < l.length := by omega
  have hj' : j < l.length := by omega
  have hfirst : R l[i] r[i] := hrelated i hi' hi
  have hsecond : R l[j] r[i] := heq ▸ hrelated j hj' hj
  apply hdistinct i j (by simpa using hi') (by simpa using hj') hij
  rw [List.getElem_map, List.getElem_map]
  exact hone _ _ _ hfirst hsecond

theorem Delimiters.AreTexts.text_of_quote {d : Delimiters} {opening closing : String}
    (hd : d.AreTexts opening closing) {v w r : Value} (hv : d.quote v = .ok r)
    (hw : d.quote w = .ok r) : ∃ t, v.text? = some t ∧ w.text? = some t := by
  obtain ⟨s, hs, -, hr⟩ := hd.quote_ok hv
  obtain ⟨t, ht, -, hr'⟩ := hd.quote_ok hw
  have hlists : s.toList = t.toList := by
    apply Identifier.enquote_injective opening.toList closing.toList
    have := Value.text.inj (hr.symm.trans hr')
    exact String.ofList_injective this
  have hst : s = t := String.toList_injective hlists
  subst hst
  exact ⟨s, hs, ht⟩

namespace Compiler

/-- Values that are quoted as one text have the same characters. -/
theorem text_of_quotesAs {c : Compiler} {d : Delimiters} {opening closing : String}
    (hd : d.AreTexts opening closing) (hquoter : c.quoter = d.quote) {v w : Value} {t : String}
    (hv : c.QuotesAs v t) (hw : c.QuotesAs w t) : v.text? = w.text? := by
  obtain ⟨r, hr, hplain⟩ := hv
  obtain ⟨r', hr', hplain'⟩ := hw
  rw [hquoter] at hr hr'
  obtain ⟨_, -, -, rfl⟩ := hd.quote_ok hr
  obtain ⟨_, -, -, rfl⟩ := hd.quote_ok hr'
  rw [Value.plain_text] at hplain hplain'
  rw [Except.ok.inj hplain] at hr
  rw [Except.ok.inj hplain'] at hr'
  obtain ⟨name, hname, hname'⟩ := hd.text_of_quote hr hr'
  rw [hname, hname']

theorem nodup_of_quotesAs {c : Compiler} {d : Delimiters} {opening closing : String}
    (hd : d.AreTexts opening closing) (hquoter : c.quoter = d.quote) {rows : List Value}
    {columns : List Column} (his : IsColumns rows columns) {names : List String}
    (h : List.Forall₂ (fun column => c.QuotesAs column.toValue) columns names) : names.Nodup := by
  have hnames : (columns.map Column.name).Nodup := his.increasing.imp ne_of_lt
  refine nodup_of_forall₂ (fun column column' t hcolumn hcolumn' => ?_) h hnames
  have htext := text_of_quotesAs hd hquoter hcolumn hcolumn'
  rw [Column.text?_toValue, Column.text?_toValue] at htext
  exact Option.some.inj htext

/-- **Quoting keeps identifiers apart,** whatever texts stand around them.  Only what has the same
characters is quoted alike.  So whatever a rule clause is compiled to, the validator was given a
statement that lists no column twice. -/
theorem quoted_apart {d : Delimiters} {opening closing : String}
    (hd : d.AreTexts opening closing) :
    (∀ v w r, d.quote v = .ok r → d.quote w = .ok r →
      ∃ t, v.text? = some t ∧ w.text? = some t) ∧
    ∀ {c : Compiler} {clauses table values : Value} {s : State} {q : Query},
      c.quoter = d.quote → c.handlers NodeClass.rule.name = some .rule →
      Clauses.HoldRule clauses table values → (c.compile clauses s).1 = .ok q →
      ∃ tableText names columns, IsColumns (Rows.all s.streams values) columns ∧
        c.QuotesAs table tableText ∧
        List.Forall₂ (fun column => c.QuotesAs column.toValue) columns names ∧ names.Nodup ∧
        c.validator ⟨.text (Statement.render tableText names (Rows.all s.streams values).length),
          cells (Rows.all s.streams values) columns⟩ = .ok q := by
  refine ⟨fun v w r => hd.text_of_quote, ?_⟩
  intro c clauses table values s q hquoter hc h hok
  obtain ⟨compiled, hattempt, rfl⟩ := attempt_of_compile_ok hok
  obtain ⟨hne, inserted, hinserted, hvalidated⟩ := validated_of_attempt_ok hc h hattempt
  have hstreams : s.tick.streams = s.streams := rfl
  rw [hstreams] at hne hinserted
  obtain ⟨-, hcolumns, tableText, names, htable, hnames, hquery⟩ := insertInto_ok hinserted
  have his := Columns.isColumns_union (Rows.all s.streams values)
  refine ⟨tableText, names, Columns.union (Rows.all s.streams values), his, htable, hnames,
    nodup_of_quotesAs hd hquoter his hnames, ?_⟩
  -- There is a value for each row and column, so the validator was asked.
  have hparams : inserted.query.params ≠ [] := by
    rw [hquery, ← List.length_pos_iff, length_cells]
    exact Nat.mul_pos (List.length_pos_iff.2 hne) (List.length_pos_iff.2 hcolumns)
  rw [← hquery]
  exact validator_of_validated_ok hparams hvalidated

/-- Two columns made of the characters of a closing mark that overlaps itself are still quoted as
two names, though nothing is put in front of them. -/
theorem quoted_apart_overlapping :
    let d : Delimiters := ⟨.text "", .text "aba"⟩
    let c := { Options.standard with quoter := .delimited d }.compiler
    let row : Value := .mapping .plain 0 [(.text "ab", .int 1), (.text "aba", .int 2)]
    let clauses : Value := .list [.record .rule 0 [("table", .text "t"), ("values", row)]]
    let s := State.initial ⟨[], none, ⟨⟨2026, 1, 1⟩, 0, 0, 0, 0⟩⟩
    (∀ w, d.quote w = .ok (.text "ababa") → w.text? = some "ab") ∧
      ∃ names : List String, names.Nodup ∧
        (c.compile clauses s).1 =
          .ok ⟨.text (Statement.render "taba" names 1), [.int 1, .int 2]⟩ := by
  intro d c row clauses s
  have hd : d.AreTexts "" "aba" := ⟨rfl, rfl⟩
  obtain ⟨hapart, hcompiles⟩ := quoted_apart hd
  constructor
  · intro w hw
    obtain ⟨t, ht, hsame⟩ := hapart (.text "ab") w _ rfl hw
    cases ht
    exact hsame
  · have hclauses := Clauses.holdRule_sequence (.inl rfl) 0 0 (.text "t") row
    have hcompiled : (c.compile clauses s).1 =
        .ok ⟨.text "INSERT INTO taba (ababa, abaabaaba) VALUES (?, ?)", [.int 1, .int 2]⟩ := rfl
    obtain ⟨tableText, names, columns, -, ⟨r, hr, htable⟩, -, hnodup, hvalidated⟩ :=
      hcompiles (c := c) rfl rfl hclauses hcompiled
    cases hr
    cases htable
    have hsql : Value.text "INSERT INTO taba (ababa, abaabaaba) VALUES (?, ?)" =
        .text (Statement.render "taba" names 1) :=
      congrArg Query.sql (AllowedTypes.eq_of_validate hvalidated)
    refine ⟨names, hnodup, ?_⟩
    rw [hcompiled, hsql]

end Compiler

end RowInsert
