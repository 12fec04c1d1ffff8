import LineCalc.Command.Report
import LineCalc.Proofs.AcceptedLines
import LineCalc.Proofs.Independence
import LineCalc.Proofs.Markup

/-!
# Tables of tokens and outlines of programs

The table of a line has a row for each token, and the outline of a program a node for each
definition, name, literal, group and operation. Both display texts of the line, and a text is
displayed as it is under a condition on its backslashes alone. Where all names of a program
meet it, the outline is the program again: its guides tell which lines belong to which node,
whatever the labels are, and the labels tell what the nodes are.
-/

namespace LineCalc

open Lexer Markup Decimal.Literal

namespace Markup

/-- A text that is displayed as it is where nothing follows it. -/
def ShownAlone (text : List Char) : Prop := ¬ Slashed text ∧ endSlashes text ≠ 1

/-- A text that is displayed as it is in a style. -/
def ShownStyled (text : List Char) : Prop := ¬ Slashed text ∧ endSlashes text ≤ 1

theorem shownStyled_of_not_mem {text : List Char} (h : '\\' ∉ text) : ShownStyled text := by
  constructor
  · rintro ⟨u, v, rfl, -⟩
    exact h (by simp)
  · obtain ⟨u, e, rfl, -, he⟩ := exists_append_endSlashes text
    rw [he]
    cases e with
    | zero => exact Nat.zero_le 1
    | succ e => exact absurd (List.mem_append_right u List.mem_cons_self) h

theorem isTag_of_letters {body : List Char} (hne : body ≠ [])
    (h : body.all opensTag = true) : IsTag body := by
  rw [List.all_eq_true] at h
  obtain ⟨c, tail, rfl⟩ := List.exists_cons_of_ne_nil hne
  exact ⟨⟨c, tail, rfl, h c List.mem_cons_self⟩, fun d hd => isBracket_of_opensTag (h d hd)⟩

end Markup

namespace Table

/-- A line of a table that shows the kind of a token, a text, and the offset of the token. -/
def ShowsRow (t : Token) (text line : String) : Prop :=
  ∃ a b c, line = "│ " ++ t.kind.name ++ spaces a ++ " │ " ++ text ++ spaces b ++ " │ " ++
    spaces c ++ toString t.pos ++ " │"

theorem length_lines (table : Table) : table.lines.length = table.rows.length + 5 := by
  simp [lines]

/-- Behind the title and the headings, the lines of a table are its rows. -/
theorem lines_getElem? (table : Table) {i : Nat} {cells : List String}
    (h : table.rows[i]? = some cells) :
    table.lines[i + 4]? = some (row "│" (table.columns.zip table.widths) cells) := by
  have hi : i < table.rows.length := (List.getElem?_eq_some_iff.mp h).1
  simp only [lines, List.cons_append, List.nil_append, List.getElem?_cons_succ]
  rw [List.getElem?_append_left (by simpa using hi), List.getElem?_map, h]
  rfl

theorem cell_eq_iff (text : String) :
    String.ofList (shown (escape text.toList)) = text ↔ ShownAlone text.toList := by
  rw [ShownAlone, ← shown_escape_eq_iff, ← String.toList_inj, String.toList_ofList]

theorem row_eq {first second third : String} (a b c : Nat) (x y z : String) :
    row "│" [(⟨first, .left⟩, a), (⟨second, .left⟩, b), (⟨third, .right⟩, c)] [x, y, z] =
      "│ " ++ x ++ spaces (a - x.length) ++ " │ " ++ y ++ spaces (b - y.length) ++ " │ " ++
        spaces (c - z.length) ++ z ++ " │" := by
  rw [← String.toList_inj]
  simp [row, pad]

theorem showsRow_ofTokens {ts : List Token} {i : Nat} {t : Token} (h : ts[i]? = some t) :
    ∃ text line, (ofTokens ts).lines[i + 4]? = some line ∧ ShowsRow t text line ∧
      (text = t.text ↔ ShownAlone t.text.toList) := by
  have hrow : (ofTokens ts).rows[i]? = some (tokenCells t) := by
    rw [ofTokens, List.getElem?_map, h]
    rfl
  exact ⟨_, _, lines_getElem? _ hrow, ⟨_, _, _, row_eq _ _ _ _ _ _⟩, cell_eq_iff t.text⟩

end Table

/-- Two lists that are cut in front of the first element outside a class are cut alike. -/
theorem append_inj_of_head {α : Type} {p : α → Bool} {a a' b b' : List α}
    (ha : ∀ x ∈ a, p x = true) (ha' : ∀ x ∈ a', p x = true) (hb : ∀ x ∈ b.head?, p x = false)
    (hb' : ∀ x ∈ b'.head?, p x = false) (h : a ++ b = a' ++ b') : a = a' ∧ b = b' := by
  have hfirst : a = a' := by
    rw [← (takeWhile_dropWhile_append ha hb).1, h, (takeWhile_dropWhile_append ha' hb').1]
  have hrest : b = b' := by
    rw [← (takeWhile_dropWhile_append ha hb).2, h, (takeWhile_dropWhile_append ha' hb').2]
  exact ⟨hfirst, hrest⟩

/-- A line holds no line feed. -/
def IsLine (line : String) : Prop := '\n' ∉ line.toList

instance (line : String) : Decidable (IsLine line) :=
  inferInstanceAs (Decidable ('\n' ∉ line.toList))

theorem toList_unlines_cons (line : String) (lines : List String) :
    (Command.unlines (line :: lines)).toList =
      line.toList ++ '\n' :: (Command.unlines lines).toList := by
  simp [Command.unlines]

theorem unlines_nil_ne_cons (line : String) (lines : List String) :
    Command.unlines [] ≠ Command.unlines (line :: lines) := by
  intro heq
  have hlist := congrArg String.toList heq
  rw [toList_unlines_cons] at hlist
  exact List.append_ne_nil_of_right_ne_nil _ (List.cons_ne_nil _ _) hlist.symm

/-- Lines that are written behind each other can be told apart. -/
theorem unlines_injective {ls ls' : List String} (h : ∀ l ∈ ls, IsLine l)
    (h' : ∀ l ∈ ls', IsLine l) (heq : Command.unlines ls = Command.unlines ls') : ls = ls' := by
  induction ls generalizing ls' with
  | nil =>
      cases ls' with
      | nil => rfl
      | cons l' ls' => exact absurd heq (unlines_nil_ne_cons l' ls')
  | cons l ls ih =>
      cases ls' with
      | nil => exact absurd heq.symm (unlines_nil_ne_cons l ls)
      | cons l' ls' =>
          obtain ⟨hl, hls⟩ := List.forall_mem_cons.mp h
          obtain ⟨hl', hls'⟩ := List.forall_mem_cons.mp h'
          have hline {line : String} (hline : IsLine line) :
              ∀ c ∈ line.toList, (c != '\n') = true := by
            intro c hc
            rw [bne_iff_ne]
            rintro rfl
            exact hline hc
          have hlist := congrArg String.toList heq
          rw [toList_unlines_cons, toList_unlines_cons] at hlist
          obtain ⟨hfirst, hrest⟩ := append_inj_of_head (hline hl) (hline hl')
            (by rintro c ⟨⟩; rfl) (by rintro c ⟨⟩; rfl) hlist
          have hlater := String.toList_inj.mp (List.cons.inj hrest).2
          rw [String.toList_inj.mp hfirst, ih hls hls' hlater]

namespace Outline

theorem guide_injective {first others : String} {ls ls' : List String}
    (h : guide first others ls = guide first others ls') : ls = ls' := by
  cases ls with
  | nil =>
      cases ls' with
      | nil => rfl
      | cons l' ls' => cases h
  | cons l ls =>
      cases ls' with
      | nil => cases h
      | cons l' ls' =>
          obtain ⟨hfirst, hothers⟩ := List.cons.inj h
          rw [(String.append_right_inj first).mp hfirst,
            (List.map_inj_right fun x y => (String.append_right_inj others).mp).mp hothers]

theorem exists_lines_eq (o : Outline) : ∃ l ls, o.lines = l :: ls := by
  obtain ⟨label, branches⟩ := o
  exact ⟨label, branchLines branches, by rw [lines]⟩

theorem lines_ne_nil (o : Outline) : o.lines ≠ [] := by
  obtain ⟨l, ls, hlines⟩ := o.exists_lines_eq
  rw [hlines]
  exact List.cons_ne_nil l ls

theorem branchLines_cons (branch next : Outline) (rest : List Outline) :
    branchLines (branch :: next :: rest) =
      guide "├── " "│   " branch.lines ++ branchLines (next :: rest) := by
  rw [branchLines]
  simp

/-- The first guide of the lines below a node. -/
def firstGuide? (lines : List String) : Option Char :=
  lines.head?.bind fun line => line.toList.head?

/-- The first guide tells whether there is a node, and whether another one follows it. -/
theorem firstGuide?_branchLines (branches : List Outline) :
    firstGuide? (branchLines branches) =
      match branches with
      | [] => none
      | [_] => some '└'
      | _ :: _ :: _ => some '├' := by
  match branches with
  | [] =>
      rw [branchLines]
      rfl
  | [last] =>
      obtain ⟨l, ls, hlines⟩ := last.exists_lines_eq
      rw [branchLines, hlines]
      simp [firstGuide?, guide]
  | branch :: next :: rest =>
      obtain ⟨l, ls, hlines⟩ := branch.exists_lines_eq
      rw [branchLines_cons, hlines]
      simp [firstGuide?, guide]

/-- Whether a line belongs to a node that has later ones beside it. -/
def continues (line : String) : Bool := line.toList.head? == some '│'

theorem continues_head?_branchLines (branches : List Outline) :
    ∀ line ∈ (branchLines branches).head?, continues line = false := by
  intro line hline
  have hguide := firstGuide?_branchLines branches
  rw [firstGuide?, hline, Option.bind_some] at hguide
  rw [continues, hguide]
  split <;> rfl

/-- The lines of a node end where the next node beside it begins. -/
theorem guide_append_injective {ls ls' rest rest' : List String} (hls : ls ≠ []) (hls' : ls' ≠ [])
    (hrest : ∀ line ∈ rest.head?, continues line = false)
    (hrest' : ∀ line ∈ rest'.head?, continues line = false)
    (h : guide "├── " "│   " ls ++ rest = guide "├── " "│   " ls' ++ rest') :
    ls = ls' ∧ rest = rest' := by
  obtain ⟨l, ls, rfl⟩ := List.exists_cons_of_ne_nil hls
  obtain ⟨l', ls', rfl⟩ := List.exists_cons_of_ne_nil hls'
  have hcontinues (ls : List String) : ∀ line ∈ ls.map ("│   " ++ ·), continues line = true := by
    intro line hline
    obtain ⟨l, -, rfl⟩ := List.mem_map.mp hline
    simp [continues]
  obtain ⟨hfirst, hothers⟩ := List.cons.inj h
  obtain ⟨hmap, hequal⟩ :=
    append_inj_of_head (hcontinues ls) (hcontinues ls') hrest hrest' hothers
  refine ⟨?_, hequal⟩
  rw [(String.append_right_inj _).mp hfirst,
    (List.map_inj_right fun x y => (String.append_right_inj _).mp).mp hmap]

mutual

/-- The lines of an outline determine it. -/
theorem lines_injective {o o' : Outline} (h : o.lines = o'.lines) : o = o' := by
  match o, o' with
  | node label branches, node label' branches' =>
      rw [lines, lines] at h
      obtain ⟨rfl, hbranches⟩ := List.cons.inj h
      rw [branchLines_injective hbranches]

theorem branchLines_injective {bs bs' : List Outline} (h : branchLines bs = branchLines bs') :
    bs = bs' := by
  -- The first guides agree, so both lists end here or both go on.
  have hguide := congrArg firstGuide? h
  rw [firstGuide?_branchLines, firstGuide?_branchLines] at hguide
  match bs, bs' with
  | [], [] => rfl
  | [b], [b'] =>
      rw [branchLines, branchLines] at h
      rw [lines_injective (guide_injective h)]
  | b :: c :: bs, b' :: c' :: bs' =>
      rw [branchLines_cons, branchLines_cons] at h
      obtain ⟨hlines, hrest⟩ := guide_append_injective (lines_ne_nil b) (lines_ne_nil b')
        (continues_head?_branchLines _) (continues_head?_branchLines _) h
      rw [lines_injective hlines, branchLines_injective hrest]
  | [], [_] => cases hguide
  | [], _ :: _ :: _ => cases hguide
  | [_], [] => cases hguide
  | [_], _ :: _ :: _ => simp at hguide
  | _ :: _ :: _, [] => cases hguide
  | _ :: _ :: _, [_] => simp at hguide

end

/-- The outline of an expression with every text as it is. -/
def exactExpr : Expr → Outline
  | .literal text => node text []
  | .reference name => node name []
  | .group inner => node "( )" [exactExpr inner]
  | .binary op left right => node op.symbol [exactExpr left, exactExpr right]

/-- The branch of a definition with every text as it is. -/
def exactDefinition (d : Definition) : Outline := node ("def " ++ d.name) [exactExpr d.value]

/-- The outline of a program with every text as it is. -/
def exact (p : Program) : Outline :=
  node "program" (p.definitions.map exactDefinition ++ [node "result" [exactExpr p.result]])

mutual

/-- An outline without its labels. -/
def shape : Outline → Outline
  | node _ branches => node "" (shapes branches)

/-- Outlines without their labels. -/
def shapes : List Outline → List Outline
  | [] => []
  | branch :: rest => branch.shape :: shapes rest

end

theorem shapes_eq_map (branches : List Outline) : shapes branches = branches.map shape := by
  induction branches with
  | nil => rw [shapes, List.map_nil]
  | cons branch rest ih => rw [shapes, ih, List.map_cons]

theorem shape_ofExpr (e : Expr) : (ofExpr e).shape = (exactExpr e).shape := by
  induction e with
  | literal text => simp only [ofExpr, exactExpr, shape]
  | reference name => simp only [ofExpr, exactExpr, shape]
  | group inner ih => simp only [ofExpr, exactExpr, shape, shapes, ih]
  | binary op left right ihl ihr => simp only [ofExpr, exactExpr, shape, shapes, ihl, ihr]

/-- Whatever the labels are, an outline has the shape of its program. -/
theorem shape_ofProgram (p : Program) : (ofProgram p).shape = (exact p).shape := by
  simp [ofProgram, exact, exactDefinition, shape, shapes_eq_map, shape_ofExpr]

theorem label_eq_iff {style : String} (h : IsTag style.toList) (text : String) :
    label style text = text ↔ ShownStyled text.toList := by
  rw [ShownStyled, ← shown_styled_escape_eq_iff h, ← String.toList_inj, label,
    String.toList_ofList]

theorem definitionLabel_eq_iff (name : String) :
    definitionLabel name = "def " ++ name ↔ ShownAlone name.toList := by
  have hgreen : IsTag "green".toList := isTag_of_letters (by decide) (by decide)
  have hlabel (text : List Char) :
      shown (styled "green" "def".toList ++ ' ' :: text) = "def ".toList ++ shown text := by
    have hcut : styled "green" "def".toList ++ ' ' :: text =
        '[' :: ("green".toList ++ ']' :: 'd' :: 'e' :: 'f' ::
          '[' :: ('/' :: "green".toList ++ ']' :: ' ' :: text)) := by
      simp [styled]
    rw [hcut, shown_tag hgreen, shown_plain (by decide) (by decide),
      shown_plain (by decide) (by decide), shown_plain (by decide) (by decide),
      shown_tag hgreen.closing, shown_plain (by decide) (by decide)]
    rfl
  rw [ShownAlone, ← shown_escape_eq_iff, ← String.toList_inj, definitionLabel,
    String.toList_ofList, hlabel, String.toList_append, List.append_right_inj]

theorem ofExpr_eq_iff {rule : WordRule} {e : Expr} (h : e.Spelled rule) :
    ofExpr e = exactExpr e ↔ ∀ name, e.Mentions name → ShownStyled name.toList := by
  induction e with
  | literal text =>
      have htext : label "cyan" text = text := by
        apply (label_eq_iff (isTag_of_letters (by decide) (by decide)) text).mpr
        apply shownStyled_of_not_mem
        exact not_mem_of_isNumber (IsLexeme.isNumber h) (by decide) (by decide)
      simp [ofExpr, exactExpr, htext, Expr.Mentions]
  | reference name =>
      have htext := @label_eq_iff "magenta" (isTag_of_letters (by decide) (by decide)) name
      simp [ofExpr, exactExpr, htext, Expr.Mentions]
  | group inner ih => simp [ofExpr, exactExpr, ih h, Expr.Mentions]
  | binary op left right ihl ihr =>
      simp [ofExpr, exactExpr, ihl h.1, ihr h.2, Expr.Mentions, or_imp, forall_and]

end Outline

/-- The names of a program are displayed as they are: those that are defined stand alone, and
those that are referred to stand in a style. -/
structure Program.Shown (p : Program) : Prop where
  definitions : ∀ d ∈ p.definitions,
    ShownAlone d.name.toList ∧ ∀ name, d.value.Mentions name → ShownStyled name.toList
  result : ∀ name, p.result.Mentions name → ShownStyled name.toList

namespace Outline

variable {rule rule' : WordRule}

theorem ofProgram_eq_iff {p : Program} (h : p.Spelled rule) :
    ofProgram p = exact p ↔ p.Shown := by
  have hbranches : ofProgram p = exact p ↔
      (∀ d ∈ p.definitions, definitionLabel d.name = "def " ++ d.name ∧
        ofExpr d.value = exactExpr d.value) ∧ ofExpr p.result = exactExpr p.result := by
    simp [ofProgram, exact, exactDefinition]
  rw [hbranches, ofExpr_eq_iff h.result]
  constructor
  · rintro ⟨hdefinitions, hresult⟩
    refine ⟨fun d hd => ?_, hresult⟩
    obtain ⟨hlabel, hvalue⟩ := hdefinitions d hd
    exact ⟨(definitionLabel_eq_iff d.name).mp hlabel,
      (ofExpr_eq_iff (h.definitions d hd).2).mp hvalue⟩
  · rintro ⟨hdefinitions, hresult⟩
    refine ⟨fun d hd => ?_, hresult⟩
    obtain ⟨hname, hvalue⟩ := hdefinitions d hd
    exact ⟨(definitionLabel_eq_iff d.name).mpr hname,
      (ofExpr_eq_iff (h.definitions d hd).2).mpr hvalue⟩

/-- No text is both a number and a name. -/
theorem not_isLexeme_ident {text : List Char} (h : IsLexeme rule .number text) :
    ¬ IsLexeme rule' .ident text := by
  rintro ⟨c, tail, rfl, -, hlexeme⟩
  have hdigit := (@numberTail_append c tail [] h.isNumber (by simp)).1
  simp [lexeme?, hdigit] at hlexeme

theorem exactExpr_injective {e e' : Expr} (h : e.Spelled rule) (h' : e'.Spelled rule')
    (heq : exactExpr e = exactExpr e') : e = e' := by
  induction e generalizing e' with
  | literal text =>
      cases e' with
      | literal text' => simpa [exactExpr] using heq
      | reference name =>
          have htext : text = name := by simpa [exactExpr] using heq
          subst htext
          exact absurd h' (not_isLexeme_ident h)
      | group inner => simp [exactExpr] at heq
      | binary op left right => simp [exactExpr] at heq
  | reference name =>
      cases e' with
      | reference name' => simpa [exactExpr] using heq
      | literal text =>
          have htext : name = text := by simpa [exactExpr] using heq
          subst htext
          exact absurd h (not_isLexeme_ident h')
      | group inner => simp [exactExpr] at heq
      | binary op left right => simp [exactExpr] at heq
  | group inner ih =>
      cases e' with
      | group inner' =>
          have hinner : exactExpr inner = exactExpr inner' := by simpa [exactExpr] using heq
          rw [@ih inner' h h' hinner]
      | literal text => simp [exactExpr] at heq
      | reference name => simp [exactExpr] at heq
      | binary op left right => simp [exactExpr] at heq
  | binary op left right ihl ihr =>
      cases e' with
      | binary op' left' right' =>
          obtain ⟨hop, hleft, hright⟩ : op.symbol = op'.symbol ∧ exactExpr left = exactExpr left' ∧
              exactExpr right = exactExpr right' := by simpa [exactExpr] using heq
          have hsymbol : op = op' := by
            apply Option.some.inj
            rw [← Operator.ofSymbol?_symbol, hop, Operator.ofSymbol?_symbol]
          rw [hsymbol, ihl h.1 h'.1 hleft, ihr h.2 h'.2 hright]
      | literal text => simp [exactExpr] at heq
      | reference name => simp [exactExpr] at heq
      | group inner => simp [exactExpr] at heq

theorem exactDefinition_injective {d d' : Definition} (h : d.value.Spelled rule)
    (h' : d'.value.Spelled rule') (heq : exactDefinition d = exactDefinition d') : d = d' := by
  obtain ⟨hlabel, hbranches⟩ := Outline.node.inj heq
  have hname : d.name = d'.name := (String.append_right_inj "def ").mp hlabel
  have hvalue : d.value = d'.value := exactExpr_injective h h' (List.cons.inj hbranches).1
  calc
    d = ⟨d.name, d.value⟩ := rfl
    _ = ⟨d'.name, d'.value⟩ := by rw [hname, hvalue]
    _ = d' := rfl

theorem map_exactDefinition_injective {ds ds' : List Definition}
    (h : ∀ d ∈ ds, d.value.Spelled rule) (h' : ∀ d ∈ ds', d.value.Spelled rule')
    (heq : ds.map exactDefinition = ds'.map exactDefinition) : ds = ds' := by
  induction ds generalizing ds' with
  | nil =>
      cases ds' with
      | nil => rfl
      | cons d' ds' => cases heq
  | cons d ds ih =>
      cases ds' with
      | nil => cases heq
      | cons d' ds' =>
          obtain ⟨hd, hds⟩ := List.forall_mem_cons.mp h
          obtain ⟨hd', hds'⟩ := List.forall_mem_cons.mp h'
          obtain ⟨hfirst, hrest⟩ := List.cons.inj heq
          rw [exactDefinition_injective hd hd' hfirst, ih hds hds' hrest]

/-- The outline with every text as it is belongs to one program only. -/
theorem exact_injective {p p' : Program} (h : p.Spelled rule) (h' : p'.Spelled rule')
    (heq : exact p = exact p') : p = p' := by
  obtain ⟨hmap, hlast⟩ := List.append_inj' (Outline.node.inj heq).2 rfl
  have hdefinitions : p.definitions = p'.definitions :=
    map_exactDefinition_injective (fun d hd => (h.definitions d hd).2)
      (fun d hd => (h'.definitions d hd).2) hmap
  have hresult : p.result = p'.result := by
    obtain ⟨-, hbranches⟩ := Outline.node.inj (List.cons.inj hlast).1
    exact exactExpr_injective h.result h'.result (List.cons.inj hbranches).1
  calc
    p = ⟨p.definitions, p.result⟩ := rfl
    _ = ⟨p'.definitions, p'.result⟩ := by rw [hdefinitions, hresult]
    _ = p' := rfl

theorem isLine_append {a b : String} (ha : IsLine a) (hb : IsLine b) : IsLine (a ++ b) := by
  simp only [IsLine, String.toList_append, List.mem_append, not_or]
  exact ⟨ha, hb⟩

theorem isLine_guide {first others : String} (hfirst : IsLine first) (hothers : IsLine others)
    {ls : List String} (h : ∀ l ∈ ls, IsLine l) : ∀ l ∈ guide first others ls, IsLine l := by
  cases ls with
  | nil => exact h
  | cons l ls =>
      obtain ⟨hl, hls⟩ := List.forall_mem_cons.mp h
      refine List.forall_mem_cons.mpr ⟨isLine_append hfirst hl, ?_⟩
      intro line hline
      obtain ⟨l, hl, rfl⟩ := List.mem_map.mp hline
      exact isLine_append hothers (hls l hl)

/-- Guides are put in front of lines without breaking them. -/
theorem isLine_branchLines {branches : List Outline}
    (h : ∀ b ∈ branches, ∀ l ∈ b.lines, IsLine l) : ∀ l ∈ branchLines branches, IsLine l := by
  induction branches with
  | nil =>
      rw [branchLines]
      exact List.forall_mem_nil _
  | cons branch rest ih =>
      obtain ⟨hbranch, hrest⟩ := List.forall_mem_cons.mp h
      cases rest with
      | nil =>
          rw [branchLines]
          exact isLine_guide (by decide) (by decide) hbranch
      | cons next rest =>
          rw [branchLines_cons]
          exact List.forall_mem_append.mpr
            ⟨isLine_guide (by decide) (by decide) hbranch, ih hrest⟩

theorem isLine_node {label : String} {branches : List Outline} (hlabel : IsLine label)
    (h : ∀ b ∈ branches, ∀ l ∈ b.lines, IsLine l) :
    ∀ l ∈ (node label branches).lines, IsLine l := by
  rw [lines]
  exact List.forall_mem_cons.mpr ⟨hlabel, isLine_branchLines h⟩

theorem isLine_of_isLexeme {kind : TokenKind} {text : String}
    (h : IsLexeme rule kind text.toList) (hkind : kind = .number ∨ kind = .ident) :
    IsLine text := by
  intro hmem
  exact absurd (h.isWordChar hkind '\n' hmem) (by decide)

theorem isLine_exactExpr {e : Expr} (h : e.Spelled rule) :
    ∀ l ∈ (exactExpr e).lines, IsLine l := by
  induction e with
  | literal text =>
      exact isLine_node (isLine_of_isLexeme h (Or.inl rfl)) (List.forall_mem_nil _)
  | reference name =>
      exact isLine_node (isLine_of_isLexeme h (Or.inr rfl)) (List.forall_mem_nil _)
  | group inner ih => exact isLine_node (by decide) (List.forall_mem_singleton.mpr (ih h))
  | binary op left right ihl ihr =>
      have hsymbol : IsLine op.symbol := by cases op <;> decide
      refine isLine_node hsymbol (List.forall_mem_cons.mpr ⟨ihl h.1, ?_⟩)
      exact List.forall_mem_singleton.mpr (ihr h.2)

theorem isLine_exact {p : Program} (h : p.Spelled rule) : ∀ l ∈ (exact p).lines, IsLine l := by
  refine isLine_node (by decide) (List.forall_mem_append.mpr ⟨?_, ?_⟩)
  · intro b hb
    obtain ⟨d, hd, rfl⟩ := List.mem_map.mp hb
    obtain ⟨hname, hvalue⟩ := h.definitions d hd
    have hlabel := @isLine_append "def " d.name (by decide) (isLine_of_isLexeme hname (Or.inr rfl))
    exact isLine_node hlabel (List.forall_mem_singleton.mpr (isLine_exactExpr hvalue))
  · refine List.forall_mem_singleton.mpr (isLine_node (by decide) ?_)
    exact List.forall_mem_singleton.mpr (isLine_exactExpr h.result)

end Outline

namespace Command

/-- The table of a line has a row for each token, with its kind, a text, and its offset. The
outline of a line has the shape of its program, and is the program itself if its names are
displayed as they are; then different programs have different outlines. A text is displayed
as it is exactly under the conditions on its backslashes. -/
theorem displays_exact_iff (settings : Settings) (line : String) :
    (∀ ts, Line.tokens settings.wordRule line = .ok ts →
      ∃ lines, (runTokens settings line).stdout = unlines lines ∧
        lines.length = ts.length + 5 ∧
        ∀ i t, ts[i]? = some t → ∃ text row, lines[i + 4]? = some row ∧
          Table.ShowsRow t text row ∧ (text = t.text ↔ ShownAlone t.text.toList)) ∧
    ∀ p, Line.program settings.wordRule line = .ok p →
      (∃ o : Outline, (runTree settings line false).stdout = unlines o.lines ∧
        o.shape = (Outline.exact p).shape ∧ (o = Outline.exact p ↔ p.Shown)) ∧
      ∀ settings' line' p', Line.program settings'.wordRule line' = .ok p' →
        p.Shown → p'.Shown →
        (runTree settings line false).stdout = (runTree settings' line' false).stdout →
        p = p' := by
  have htree {settings : Settings} {line : String} {p : Program}
      (h : Line.program settings.wordRule line = .ok p) :
      (runTree settings line false).stdout = unlines (Outline.ofProgram p).lines := by
    simp only [runTree, h]
    rfl
  refine ⟨fun ts hts => ?_, fun p hp => ⟨?_, ?_⟩⟩
  · refine ⟨(Table.ofTokens ts).lines, by simp only [runTokens, hts], ?_, ?_⟩
    · rw [Table.length_lines]
      simp [Table.ofTokens]
    · intro i t ht
      exact Table.showsRow_ofTokens ht
  · exact ⟨_, htree hp, Outline.shape_ofProgram p,
      Outline.ofProgram_eq_iff (Line.spelled_of_program hp)⟩
  · intro settings' line' p' hp' hshown hshown' hequal
    have hspelled := Line.spelled_of_program hp
    have hspelled' := Line.spelled_of_program hp'
    rw [htree hp, htree hp', (Outline.ofProgram_eq_iff hspelled).mpr hshown,
      (Outline.ofProgram_eq_iff hspelled').mpr hshown'] at hequal
    apply Outline.exact_injective hspelled hspelled'
    apply Outline.lines_injective
    exact unlines_injective (Outline.isLine_exact hspelled) (Outline.isLine_exact hspelled') hequal

/-- A backslash in front of a bracket is missing from the table, and two names that differ in
the number of backslashes at their end have the same outline. -/
theorem displays_inexact :
    (runTokens .standard "a\\[1]").stdout = unlines
      ["        Tokens        ",
       "┏━━━━━━━┳━━━━━━┳━━━━━┓",
       "┃ Kind  ┃ Text ┃ Pos ┃",
       "┡━━━━━━━╇━━━━━━╇━━━━━┩",
       "│ ident │ a[1] │   0 │",
       "│ eof   │      │   5 │",
       "└───────┴──────┴─────┘"] ∧
    Line.program .any "a\\" = .ok ⟨[], .reference "a\\"⟩ ∧
    Line.program .any "a\\\\" = .ok ⟨[], .reference "a\\\\"⟩ ∧
    (runTree .standard "a\\" false).stdout = (runTree .standard "a\\\\" false).stdout := by
  decide +kernel

end Command

end LineCalc
