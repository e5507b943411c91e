import FormulaMap.Proofs.Code.Declarations
import FormulaMap.Proofs.Code.Paths
import FormulaMap.Proofs.Text.Occurrences
import FormulaMap.Proofs.Text.Splitting
import FormulaMap.Proofs.Text.Trimming

/-!
# What doc comments say

The documentation of a declaration comes from the nearest node before it that is no line comment, if
that is a doc comment, and from nothing else.  It is made of lines that start and end with
characters that are not blank.  Such lines, put into a doc comment behind margins, come out again as
they were: only the margin loses its star, not a line that starts with one.
-/

namespace FormulaMap
namespace Code

/-! ## The comment that counts -/

theorem documentation_append {comments : List Node}
    (h : ∀ c ∈ comments, c.kind = .token .lineComment) (earlier : List Node) :
    documentation (comments ++ earlier) = documentation earlier := by
  induction comments with
  | nil => rfl
  | cons c comments ih =>
      rw [List.cons_append, documentation, if_pos (h c List.mem_cons_self)]
      exact ih fun other hother => h other (List.mem_cons_of_mem _ hother)

theorem documentation_cons {n : Node} (h : n.kind ≠ .token .lineComment) (earlier : List Node) :
    documentation (n :: earlier) = documentation [n] := by
  rw [documentation, documentation, if_neg h, if_neg h]

theorem documentation_blockComment {n : Node} (h : n.kind = .token .blockComment)
    (earlier : List Node) : documentation (n :: earlier) = docText n.spelling := by
  rw [documentation, h, if_neg (by decide), if_pos rfl]

/-- Only a block comment documents anything. -/
theorem kind_of_documentation_ne_nil {n : Node} (hline : n.kind ≠ .token .lineComment)
    (h : documentation [n] ≠ []) :
    n.kind = .token .blockComment ∧ docText n.spelling ≠ [] := by
  by_cases hblock : n.kind = .token .blockComment
  · rw [documentation_blockComment hblock] at h
    exact ⟨hblock, h⟩
  · rw [documentation, if_neg hline, if_neg hblock] at h
    exact absurd rfl h

/-- Whether a comment is a doc comment and what is inside it. -/
def IsDocComment (comment body : List Char) : Prop :=
  Text.trim comment = "/**".toList ++ body ++ "*/".toList ∧
    ¬"/***".toList <+: Text.trim comment

theorem docText_of_isDocComment {comment body : List Char} (h : IsDocComment comment body) :
    docText comment = docBody body := by
  obtain ⟨htext, hbanner⟩ := h
  have hopens : Text.opensWith docOpening (Text.trim comment) = true := by
    rw [Text.opensWith_iff, htext, List.append_assoc]
    exact List.prefix_append _ _
  have hplain : Text.opensWith bannerOpening (Text.trim comment) = false := by
    rw [← Bool.not_eq_true, Text.opensWith_iff]
    exact hbanner
  have hbody : (Text.after? docOpening (Text.trim comment)).bind (Text.before? commentClosing) =
      some body := by
    rw [htext, List.append_assoc]
    show (Text.after? docOpening (docOpening ++ (body ++ commentClosing))).bind _ = _
    rw [Text.after?_append, Option.bind_some, Text.before?_append]
  rw [docText]
  simp only [hopens, hplain, hbody, Bool.not_false, Bool.and_self, if_true]

theorem docText_ne_nil {comment : List Char} (h : docText comment ≠ []) :
    ∃ body, IsDocComment comment body := by
  simp only [docText] at h
  split at h
  · next hopening =>
      rw [Bool.and_eq_true, Bool.not_eq_true', ← Bool.not_eq_true, Text.opensWith_iff,
        Text.opensWith_iff] at hopening
      split at h
      · next body hbody =>
          obtain ⟨rest, hafter, hbefore⟩ := Option.bind_eq_some_iff.mp hbody
          refine ⟨body, ?_, hopening.2⟩
          rw [Text.eq_append_of_after? hafter, Text.eq_append_of_before? hbefore,
            ← List.append_assoc]
          rfl
      · exact absurd rfl h
  · exact absurd rfl h

/-! ## The lines that come out -/

theorem mem_of_mem_docLine {c : Char} {line : List Char} (h : c ∈ docLine line) : c ∈ line := by
  have hstar : Text.trimStartOf '*' (Text.trim line) <:+ Text.trim line := List.dropWhile_suffix _
  exact Text.mem_of_mem_trim (hstar.subset (Text.mem_of_mem_trim h))

theorem newline_notMem_of_mem_lines {cs line : List Char} (h : line ∈ Text.lines cs) :
    '\n' ∉ line := by
  simp only [Text.lines] at h
  rcases List.mem_append.mp h with hended | hlast
  · obtain ⟨piece, hpiece, rfl⟩ := List.mem_map.mp hended
    have hnone := Text.notMem_of_mem_splitAt (List.dropLast_subset _ hpiece)
    rw [Text.dropReturn]
    cases hreturn : Text.before? ['\r'] piece with
    | none => exact hnone
    | some front =>
        rw [Text.eq_append_of_before? hreturn, List.mem_append, not_or] at hnone
        exact hnone.1
  · split at hlast
    · cases hlast
    · rw [List.mem_singleton] at hlast
      subst hlast
      cases hpieces : (Text.splitAt '\n' cs).getLast? with
      | none => exact List.not_mem_nil
      | some last => exact Text.notMem_of_mem_splitAt (List.mem_of_getLast? hpieces)

/-- What a doc comment gives, cut into lines, has none with a blank at an end. -/
theorem solid_of_mem_splitAt_docBody {body line : List Char} (h : docBody body ≠ [])
    (hline : line ∈ Text.splitAt '\n' (docBody body)) : Text.Solid line := by
  have hkept : ∀ piece ∈ ((Text.lines body).map docLine).filter (fun line => !line.isEmpty),
      '\n' ∉ piece ∧ Text.Solid piece := by
    intro piece hpiece
    obtain ⟨hmem, hsome⟩ := List.mem_filter.mp hpiece
    obtain ⟨whole, hwhole, rfl⟩ := List.mem_map.mp hmem
    refine ⟨fun hnewline => newline_notMem_of_mem_lines hwhole (mem_of_mem_docLine hnewline), ?_⟩
    rw [docLine] at hsome ⊢
    exact Text.solid_trim (by simpa using hsome)
  have hne : ((Text.lines body).map docLine).filter (fun line => !line.isEmpty) ≠ [] := by
    intro hnil
    rw [docBody, hnil] at h
    exact h rfl
  rw [docBody, Text.splitAt_joinWith hne fun piece hpiece => (hkept piece hpiece).1] at hline
  exact (hkept line hline).2

/-! ## The lines that are put in -/

/-- A doc comment with the given lines, each behind a blank, a star and another blank. -/
def marginComment (lines : List (List Char)) : List Char :=
  "/**\n".toList ++ lines.flatMap (fun line => " * ".toList ++ line ++ ['\n']) ++ " */".toList

/-- Behind its margin a line is found as it is, a star at its start included. -/
theorem docLine_margin {line : List Char} (h : Text.Solid line) :
    docLine (" * ".toList ++ line) = line := by
  have htrim : Text.trim (" * ".toList ++ line) = '*' :: ' ' :: line := by
    show Text.trimEnd (Text.trimStart (' ' :: '*' :: ' ' :: line)) = _
    rw [Text.trimStart_of_blank (by decide), Text.trimStart_of_not_blank (by decide)]
    exact h.trimEnd_append_eq ['*', ' ']
  have hstar : Text.trimStartOf '*' ('*' :: ' ' :: line) = ' ' :: line := by
    simp [Text.trimStartOf]
  have hblank : Text.trim (' ' :: line) = line := by
    rw [Text.trim, Text.trimStart_of_blank (by decide)]
    exact h.trim_eq
  rw [docLine, htrim, hstar, hblank]

theorem dropReturn_append {line : List Char} (h : Text.Solid line) (front : List Char) :
    Text.dropReturn (front ++ line) = front ++ line := by
  rw [Text.dropReturn]
  cases hreturn : Text.before? ['\r'] (front ++ line) with
  | none => rfl
  | some shorter =>
      obtain ⟨c, hlast, hc⟩ := h.ends
      obtain ⟨inside, rfl⟩ := List.getLast?_eq_some_iff.mp hlast
      have hends := Text.eq_append_of_before? hreturn
      rw [← List.append_assoc] at hends
      have hsame := List.singleton_inj.mp (List.append_inj' hends rfl).2
      subst hsame
      cases hc

theorem isDocComment_marginComment (lines : List (List Char)) :
    IsDocComment (marginComment lines)
      ('\n' :: (lines.flatMap (fun line => " * ".toList ++ line ++ ['\n']) ++ [' '])) := by
  have hwhole : marginComment lines = '/' :: ("**\n".toList ++
      lines.flatMap (fun line => " * ".toList ++ line ++ ['\n']) ++ " *".toList ++ ['/']) := by
    simp [marginComment]
  have htrim : Text.trim (marginComment lines) = marginComment lines := by
    rw [hwhole]
    exact Text.trim_of_not_blank (by decide) (by decide)
  rw [IsDocComment, htrim]
  constructor
  · simp [marginComment]
  · rintro ⟨rest, hrest⟩
    simp [marginComment] at hrest

/-- The lines inside such a comment are those given, each behind its margin, between an empty one
and a blank one. -/
theorem lines_margin {lines : List (List Char)}
    (h : ∀ line ∈ lines, '\n' ∉ line ∧ Text.Solid line) :
    Text.lines
        ('\n' :: (lines.flatMap (fun line => " * ".toList ++ line ++ ['\n']) ++ [' '])) =
      [] :: lines.map (" * ".toList ++ ·) ++ [[' ']] := by
  have hpieces : Text.splitAt '\n'
      ('\n' :: (lines.flatMap (fun line => " * ".toList ++ line ++ ['\n']) ++ [' '])) =
      [] :: lines.map (" * ".toList ++ ·) ++ [[' ']] := by
    have hmargins : lines.flatMap (fun line => " * ".toList ++ line ++ ['\n']) =
        (lines.map (" * ".toList ++ ·)).flatMap fun piece => piece ++ ['\n'] := by
      rw [List.flatMap_map]
    rw [Text.splitAt_cons_sep, hmargins, Text.splitAt_flatMap_append, List.cons_append]
    · intro piece hpiece
      obtain ⟨line, hline, rfl⟩ := List.mem_map.mp hpiece
      rw [List.mem_append, not_or]
      exact ⟨by decide, (h line hline).1⟩
    · decide
  have hkept : (lines.map (" * ".toList ++ ·)).map Text.dropReturn =
      lines.map (" * ".toList ++ ·) := by
    rw [List.map_map]
    apply List.map_congr_left
    intro line hline
    exact dropReturn_append (h line hline).2 _
  simp only [Text.lines]
  rw [hpieces, List.dropLast_concat, List.getLast?_concat, List.map_cons, hkept]
  rfl

theorem docBody_margin {lines : List (List Char)}
    (h : ∀ line ∈ lines, '\n' ∉ line ∧ Text.Solid line) :
    docBody ('\n' :: (lines.flatMap (fun line => " * ".toList ++ line ++ ['\n']) ++ [' '])) =
      Text.joinWith ['\n'] lines := by
  have hcleaned : (lines.map (" * ".toList ++ ·)).map docLine = lines := by
    rw [List.map_map]
    conv_rhs => rw [← List.map_id lines]
    apply List.map_congr_left
    intro line hline
    exact docLine_margin (h line hline).2
  have hall : lines.filter (fun line => !line.isEmpty) = lines := by
    rw [List.filter_eq_self]
    intro line hline
    simpa using (h line hline).2.ne_nil
  have hnone : docLine [] = [] := rfl
  have hlast : docLine [' '] = [] := by decide
  rw [docBody, lines_margin h, List.map_append, List.map_cons, hcleaned, hnone,
    List.map_singleton, hlast, List.filter_append, List.filter_cons_of_neg (by simp), hall,
    List.filter_cons_of_neg (by simp), List.filter_nil, List.append_nil]

/-- A line of a comment that starts with a star keeps it. -/
example : docText (marginComment ["* rate".toList]) = "* rate".toList := by decide

theorem joinWith_ne_nil {lines : List (List Char)} (hne : lines ≠ [])
    (h : ∀ line ∈ lines, Text.Solid line) : Text.joinWith ['\n'] lines ≠ [] := by
  obtain ⟨first, more, rfl⟩ := List.exists_cons_of_ne_nil hne
  have hfirst : first ≠ [] := (h first List.mem_cons_self).ne_nil
  cases more with
  | nil => exact hfirst
  | cons next more => simp [Text.joinWith, hfirst]

/-! ## Documentation -/

theorem documentation_of_marginComment {comments further : List Node} {n : Node}
    {lines : List (List Char)} (hcomments : ∀ c ∈ comments, c.kind = .token .lineComment)
    (hblock : n.kind = .token .blockComment) (hspelling : n.spelling = marginComment lines)
    (hlines : ∀ line ∈ lines, '\n' ∉ line ∧ Text.Solid line) :
    documentation (comments ++ n :: further) = Text.joinWith ['\n'] lines := by
  rw [documentation_append hcomments, documentation_blockComment hblock, hspelling,
    docText_of_isDocComment (isDocComment_marginComment lines), docBody_margin hlines]

theorem solid_of_mem_splitAt_documentation {nodes : List Node} {line : List Char}
    (h : documentation nodes ≠ []) (hmem : line ∈ Text.splitAt '\n' (documentation nodes)) :
    Text.Solid line := by
  induction nodes with
  | nil => exact absurd rfl h
  | cons n earlier ih =>
      by_cases hline : n.kind = .token .lineComment
      · rw [documentation, if_pos hline] at h hmem
        exact ih h hmem
      · rw [documentation_cons hline] at h hmem
        obtain ⟨hblock, hdoc⟩ := kind_of_documentation_ne_nil hline h
        obtain ⟨body, hbody⟩ := docText_ne_nil hdoc
        rw [documentation_blockComment hblock, docText_of_isDocComment hbody] at h hmem
        exact solid_of_mem_splitAt_docBody h hmem

/-- A text is what nodes before a declaration, the nearest first, say about it: line comments say
nothing and are passed over, the first other node decides alone, and it says nothing unless it is a
doc comment.  Of such a comment come solid lines, and those that it holds behind margins come as
they are. -/
structure SaidBy (earlier : List Node) (text : List Char) : Prop where
  skipped : ∀ comments others, earlier = comments ++ others →
    (∀ c ∈ comments, c.kind = .token .lineComment) → text = documentation others
  nothing : (∀ c ∈ earlier, c.kind = .token .lineComment) → text = []
  nearest : ∀ comments n further, earlier = comments ++ n :: further →
    (∀ c ∈ comments, c.kind = .token .lineComment) → n.kind ≠ .token .lineComment →
      text = documentation [n] ∧
        (text ≠ [] → n.kind = .token .blockComment ∧ ∃ body, IsDocComment n.spelling body)
  margin : ∀ comments n further lines, earlier = comments ++ n :: further →
    (∀ c ∈ comments, c.kind = .token .lineComment) → n.kind = .token .blockComment →
      n.spelling = marginComment lines → (∀ line ∈ lines, '\n' ∉ line ∧ Text.Solid line) →
        text = Text.joinWith ['\n'] lines
  solid : text ≠ [] → ∀ line ∈ Text.splitAt '\n' text, Text.Solid line

theorem saidBy_documentation (earlier : List Node) : SaidBy earlier (documentation earlier) := by
  constructor
  case skipped =>
    rintro comments others rfl hcomments
    exact documentation_append hcomments others
  case nothing =>
    intro hcomments
    have hskipped := documentation_append hcomments []
    rwa [List.append_nil] at hskipped
  case nearest =>
    rintro comments n further rfl hcomments hline
    rw [documentation_append hcomments, documentation_cons hline]
    refine ⟨rfl, ?_⟩
    intro hsome
    obtain ⟨hblock, hdoc⟩ := kind_of_documentation_ne_nil hline hsome
    exact ⟨hblock, docText_ne_nil hdoc⟩
  case margin =>
    rintro comments n further lines rfl hcomments hblock hspelling hlines
    exact documentation_of_marginComment hcomments hblock hspelling hlines
  case solid =>
    intro hsome line hline
    exact solid_of_mem_splitAt_documentation hsome hline

/-! ## The documentation of records -/

/-- The documentation of a record is what is said by nodes before a declaration, or the words for
none.  Lines that a doc comment holds behind margins are all of it. -/
structure DocumentedBy (r : MethodRecord) (earlier : List Node) : Prop where
  none : documentation earlier = [] → r.documentation = MethodRecord.noComment
  some : documentation earlier ≠ [] → r.documentation = String.ofList (documentation earlier)
  margin : ∀ comments n further lines, earlier = comments ++ n :: further →
    (∀ c ∈ comments, c.kind = .token .lineComment) → n.kind = .token .blockComment →
      n.spelling = marginComment lines → lines ≠ [] →
        (∀ line ∈ lines, '\n' ∉ line ∧ Text.Solid line) →
          r.documentation = String.ofList (Text.joinWith ['\n'] lines)

theorem documentedBy_record (m : Method) (lines : List (List Char)) (s : Selection) :
    DocumentedBy (m.record lines s) m.earlier := by
  have hsome : documentation m.earlier ≠ [] →
      (m.record lines s).documentation = String.ofList (documentation m.earlier) := by
    intro h
    rw [Method.record, Method.documentation, if_neg (by simpa using h)]
  constructor
  case none =>
    intro h
    rw [Method.record, Method.documentation, h]
    rfl
  case some => exact hsome
  case margin =>
    intro comments n further held hearlier hcomments hblock hspelling hne hheld
    have htext : documentation m.earlier = Text.joinWith ['\n'] held := by
      rw [hearlier]
      exact documentation_of_marginComment hcomments hblock hspelling hheld
    have hshown := joinWith_ne_nil hne fun line hline => (hheld line hline).2
    rw [← htext] at hshown ⊢
    exact hsome hshown

/-- The records of a tree are those of all its method declarations in the order of the paths to
them, each documented by the nodes before its declaration and no others. -/
def Forest.Documents (tree : Forest) (rs : List MethodRecord) : Prop :=
  ∃ paths : List (List Nat), paths.Pairwise (· < ·) ∧
    (∀ path, path ∈ paths ↔ LeadsToMethod tree.row path) ∧
    List.Forall₂ (fun path r => ∃ p, spot? tree.row path = some p ∧
        r.name = ((p.node.part? .name).map Node.text).getD "" ∧ DocumentedBy r p.earlier)
      paths rs

theorem documents_of_recordsOfTree {source : String} {s : Selection} {tree : Forest}
    {rs : List MethodRecord} (h : recordsOfTree source s tree = .ok rs) : tree.Documents rs := by
  obtain ⟨paths, horder, hall, hmethods⟩ := exists_paths_methods tree
  refine ⟨paths, horder, hall, ?_⟩
  rw [eq_map_record_of_recordsOfTree h, List.forall₂_map_right_iff]
  refine hmethods.imp ?_
  intro path m hspot
  refine ⟨_, hspot, ?_, documentedBy_record m _ s⟩
  rw [Method.record, Method.name]

/-- The nearest node before a declaration that is no line comment decides about its documentation
alone, and unless that is a doc comment there is none.  Solid lines that a doc comment holds behind
margins are the documentation of the record, whatever character they start with; and whatever a
comment holds, its documentation has only solid lines.  So it is for the records of any tree, each
with the nodes that stand before its declaration, and for those of a source text. -/
theorem documentation_by_nearest :
    (∀ earlier : List Node, SaidBy earlier (documentation earlier)) ∧
    (∀ (source : String) (s : Selection) (tree : Forest) (rs : List MethodRecord),
      recordsOfTree source s tree = .ok rs → tree.Documents rs) ∧
    ∀ (source : String) (s : Selection) (rs : List MethodRecord),
      records source s = .ok rs → (syntaxTree source.toList).Documents rs :=
  ⟨saidBy_documentation, fun _ _ _ _ h => documents_of_recordsOfTree h,
    fun _ _ _ h => documents_of_recordsOfTree h⟩

/-- A class with a method behind a doc comment and a line comment, and one behind that method. -/
def ratesTree : Forest :=
  .node [] none (.phrase .program)
    (.node [] none (.phrase .classDeclaration)
      (.node "class A ".toList (some .body) (.phrase .classBody)
        (.node [] none (.token .leftBrace) (.text "\x7b".toList)
          (.node ['\n'] none (.token .blockComment)
            (.text "/**\n * * rate\n * in percent\n */".toList)
            (.node ['\n'] none (.token .lineComment) (.text "// fast".toList)
              (.node ['\n'] none (.phrase .methodDeclaration)
                (.node "int ".toList (some .name) (.token .identifier) (.text ['f'])
                  (.text "() \x7b return 1; \x7d".toList))
                (.node ['\n'] none (.phrase .methodDeclaration)
                  (.node "int ".toList (some .name) (.token .identifier) (.text ['g'])
                    (.text "() \x7b return 2; \x7d".toList))
                  (.node ['\n'] none (.token .rightBrace) (.text "\x7d".toList) (.text [])))))))
        (.text []))
      (.text []))
    (.text [])

/-- The first method has the lines of its comment for documentation, the second has none. -/
theorem documentation_by_nearest_rates :
    let source := String.ofList ratesTree.spelling
    ∃ rs, recordsOfTree source ⟨.numericTyped, false⟩ ratesTree = .ok rs ∧
      rs.map (·.documentation) = ["* rate\nin percent", "No comment"] ∧ ratesTree.Documents rs := by
  intro source
  refine ⟨[_, _], rfl, by decide, ?_⟩
  exact documentation_by_nearest.2.1 source ⟨.numericTyped, false⟩ ratesTree _ rfl

end Code
end FormulaMap
