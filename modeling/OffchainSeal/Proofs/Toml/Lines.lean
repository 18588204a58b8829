import OffchainSeal.Proofs.Toml.Text

/-!
# Lines of TOML

Documents whose values are texts and whose tables do not lie in each other. A line says nothing,
opens a table or gives a key its text, with blanks, comments and escapes wherever TOML lets them
be. Reading such a document is a fold over what its lines say.

Results:
* `line?_of_form`: one line is taken with its end.
* `document?_of_form`: a whole document.
* `Layout.document?_eq`: with names that are distinct, the tables of a document are those that
  its lines open, each with its own pairs.
* `LinesForm.exists_of`: whatever lines can say can be written down.
-/

namespace OffchainSeal.Toml

/-! ## What a line says -/

/-- A header of one part, or a pair of a key of one part and a text. -/
inductive Line where
  | table (name : List Char)
  | pair (key value : List Char)
  deriving DecidableEq, Repr

/-- The draft with what a line says. -/
def Draft.add (d : Draft) : Line → Option Draft
  | .table name => (d.root.openTable [] name).map fun root => ⟨root, [name]⟩
  | .pair key value => d.assign [key] (.text value)

/-- A line without its end, and what it says, if anything. -/
inductive LineForm : List Char → Option Line → Prop
  | nothing {tail : List Char} : TailForm tail → LineForm tail none
  | table {left front key back tail name : List Char} : AreBlanks left → AreBlanks front →
      KeyForm key name → AreBlanks back → TailForm tail →
      LineForm (left ++ '[' :: (front ++ (key ++ (back ++ ']' :: tail)))) (some (.table name))
  | pair {left key back front value tail name s : List Char} : AreBlanks left →
      KeyForm key name → AreBlanks back → AreBlanks front → StringForm value s → TailForm tail →
      LineForm (left ++ (key ++ (back ++ '=' :: (front ++ (value ++ tail)))))
        (some (.pair name s))

/-- A text and what its lines say. -/
inductive LinesForm : List Char → List Line → Prop
  | nil : LinesForm [] []
  | cons {cs s rest : List Char} {said : Option Line} {lines : List Line} : LineForm cs said →
      LineStops s rest → LinesForm rest lines → LinesForm (cs ++ s) (said.toList ++ lines)

/-! ## One line -/

theorem skipBlanks_skipBlanks (s : List Char) : skipBlanks (skipBlanks s) = skipBlanks s := by
  unfold skipBlanks
  exact List.dropWhile_idempotent _ s

theorem endLine?_skipBlanks (s : List Char) : endLine? (skipBlanks s) = endLine? s := by
  unfold endLine?
  rw [skipBlanks_skipBlanks]

theorem ne_cons_of_endLine? {s rest : List Char} (h : endLine? s = some rest) {c : Char}
    (hc : ∀ t, endLine? (c :: t) = none) (t : List Char) : s ≠ c :: t := by
  intro heq
  rw [heq, hc] at h
  cases h

/-- A line of nothing but its end. -/
theorem line?_of_endLine? (d : Draft) {s rest : List Char} (h : endLine? s = some rest) :
    line? d s = some (d, rest) := by
  have hskip : endLine? (skipBlanks s) = some rest := by rw [endLine?_skipBlanks, h]
  unfold line?
  split
  · next heq =>
    rw [heq] at hskip
    cases hskip
    rfl
  · next heq => exact absurd heq (ne_cons_of_endLine? hskip (fun _ => rfl) _)
  · rw [hskip]
    rfl

/-- A key is no end of a line. -/
theorem KeyForm.endLine?_eq_none {key name : List Char} (h : KeyForm key name)
    (rest : List Char) : endLine? (key ++ rest) = none := by
  have hhash := h.head_ne (d := '#') (by decide) (by decide) rest
  have hfeed := h.head_ne (d := '\n') (by decide) (by decide) rest
  have hreturn := h.head_ne (d := '\r') (by decide) (by decide) rest
  obtain ⟨c, t, hct, -⟩ := h.exists_cons
  unfold endLine?
  rw [h.skipBlanks_append_eq]
  have hcomment : skipComment (key ++ rest) = key ++ rest := by
    unfold skipComment
    split
    · next heq => exact absurd heq (hhash _)
    · rfl
  rw [hcomment]
  split
  · next heq =>
    rw [hct] at heq
    cases heq
  · unfold newline?
    split
    · next heq => exact absurd heq (hfeed _)
    · next heq => exact absurd heq (hreturn _)
    · rfl

/-- What no blank and not what follows begins with, blanks in front do not begin with. -/
theorem AreBlanks.append_ne {blanks s : List Char} (h : AreBlanks blanks) {c : Char}
    (hc : isBlank c = false) (hs : ∀ t, s ≠ c :: t) (t : List Char) : blanks ++ s ≠ c :: t := by
  cases blanks with
  | nil => exact hs t
  | cons b blanks =>
    intro heq
    have hblank := isBlank_iff.mpr (h b List.mem_cons_self)
    rw [(List.cons.inj heq).1, hc] at hblank
    cases hblank

/-- A header is taken from behind its bracket, and its table opened. -/
theorem header?_of_form (d : Draft) {front key back name : List Char} (hfront : AreBlanks front)
    (h : KeyForm key name) (hback : AreBlanks back) (rest : List Char) :
    header? d (front ++ (key ++ (back ++ ']' :: rest))) =
      (d.add (.table name)).map fun d => (d, rest) := by
  have hbracket : ∀ t, front ++ (key ++ (back ++ ']' :: rest)) ≠ '[' :: t :=
    hfront.append_ne (by decide) (h.head_ne (by decide) (by decide) _)
  have hkey : key? (front ++ (key ++ (back ++ ']' :: rest))) = some ([name], ']' :: rest) :=
    key?_of_form hfront h hback (.inr rfl) rest
  unfold header?
  split
  · next heq => exact absurd heq (hbracket _)
  · rw [hkey]
    change (d.root.openTable [] name >>= fun root => some ((⟨root, [name]⟩ : Draft), rest)) = _
    dsimp only [Draft.add]
    cases d.root.openTable [] name <;> rfl

/-- A text is a value, in front of no further mark. -/
theorem value?_of_form (depth : ℕ) {value s rest : List Char} (h : StringForm value s)
    (hrest : ∀ t, rest ≠ '"' :: t) : value? depth (value ++ rest) = some (.text s, rest) := by
  have hstring := string?_of_form h hrest
  obtain ⟨inner, -, rfl⟩ := h
  have htext : value? depth ('"' :: (inner ++ ['"'] ++ rest)) =
      (string? ('"' :: (inner ++ ['"'] ++ rest))).map fun r => (.text r.1, r.2) := by
    cases depth <;> rfl
  rw [List.cons_append, htext, ← List.cons_append, hstring]
  rfl

/-- A pair is taken up to what follows its value. -/
theorem pair?_of_form (depth : ℕ) {key back front value name s rest : List Char}
    (hkey : KeyForm key name) (hback : AreBlanks back) (hfront : AreBlanks front)
    (hvalue : StringForm value s) (hrest : ∀ t, rest ≠ '"' :: t) :
    pair? (value? depth) (key ++ (back ++ '=' :: (front ++ (value ++ rest)))) =
      some (([name], .text s), rest) := by
  have hpath : key? (key ++ (back ++ '=' :: (front ++ (value ++ rest)))) =
      some ([name], '=' :: (front ++ (value ++ rest))) :=
    key?_of_form areBlanks_nil hkey hback (.inl rfl) _
  have hskip : skipBlanks (front ++ (value ++ rest)) = value ++ rest := by
    rw [skipBlanks_append hfront]
    obtain ⟨inner, -, rfl⟩ := hvalue
    rfl
  unfold pair?
  rw [hpath]
  change (value? depth (skipBlanks (front ++ (value ++ rest))) >>= fun r =>
    some (([name], r.1), r.2)) = _
  rw [hskip, value?_of_form depth hvalue hrest]
  rfl

/-- A line is taken with its end, and what it says goes to the draft. -/
theorem line?_of_form (d : Draft) {cs s rest : List Char} {said : Option Line}
    (h : LineForm cs said) (hs : LineStops s rest) :
    line? d (cs ++ s) = (said.toList.foldlM Draft.add d).map fun d => (d, rest) := by
  cases h with
  | nothing htail => exact line?_of_endLine? d (endLine?_of_tail htail hs)
  | @table left front key back tail name hleft hfront hkey hback htail =>
    have hheader := header?_of_form d hfront hkey hback (tail ++ s)
    have hskip : skipBlanks (left ++ '[' :: (front ++ (key ++ (back ++ ']' :: tail))) ++ s) =
        '[' :: (front ++ (key ++ (back ++ ']' :: (tail ++ s)))) := by
      rw [List.append_assoc, skipBlanks_append hleft]
      simp only [List.cons_append, List.append_assoc]
      rfl
    unfold line?
    rw [hskip]
    change (header? d _ >>= fun r => endLine? r.2 >>= fun rest => some (r.1, rest)) = _
    rw [hheader]
    change _ = (d.add (.table name) >>= fun d => some d).map _
    cases d.add (.table name) with
    | none => rfl
    | some d =>
      change (endLine? (tail ++ s) >>= fun rest => some (d, rest)) = _
      rw [endLine?_of_tail htail hs]
      rfl
  | @pair left key back front value tail name text hleft hkey hback hfront hvalue htail =>
    have hend := endLine?_of_tail htail hs
    have hmark := ne_cons_of_endLine? hend (c := '"') fun _ => rfl
    have hpair := pair?_of_form maxDepth hkey hback hfront hvalue hmark
    have hskip : skipBlanks (left ++ (key ++ (back ++ '=' :: (front ++ (value ++ tail)))) ++ s) =
        key ++ (back ++ '=' :: (front ++ (value ++ (tail ++ s)))) := by
      rw [List.append_assoc, skipBlanks_append hleft, List.append_assoc, hkey.skipBlanks_append_eq]
      simp only [List.cons_append, List.append_assoc]
    unfold line?
    rw [hskip]
    split
    · next heq =>
      obtain ⟨c, t, rfl, -⟩ := hkey.exists_cons
      cases heq
    · next heq => exact absurd heq (hkey.head_ne (by decide) (by decide) _ _)
    · rw [hkey.endLine?_eq_none]
      dsimp only
      rw [hpair]
      change (d.assign [name] (.text text) >>= fun d => endLine? (tail ++ s) >>= fun rest =>
        some (d, rest)) = _
      change _ = (d.assign [name] (.text text) >>= fun d => some d).map _
      rw [hend]
      cases d.assign [name] (.text text) <;> rfl

/-! ## A whole document -/

theorem LineForm.eq_none_of_nil {cs : List Char} {said : Option Line} (h : LineForm cs said)
    (hcs : cs = []) : said = none := by
  cases h with
  | nothing => rfl
  | table | pair => simp at hcs

/-- Where a line stops, the text behind is shorter by its end. -/
theorem LineStops.length_lt {s rest : List Char} (h : LineStops s rest) :
    s = [] ∧ rest = [] ∨ rest.length < s.length := by
  cases h with
  | lineFeed | carriageReturn =>
    right
    simp only [List.length_cons]
    omega
  | finished => exact .inl ⟨rfl, rfl⟩

theorem lines?_nil (d : Draft) : lines? d [] = some d := by
  rw [lines?]
  rfl

theorem lines?_of_line? {d : Draft} {s rest : List Char} {next : Option Draft}
    (hline : line? d s = next.map fun d => (d, rest)) (hlt : rest.length < s.length) :
    lines? d s = next >>= fun d => lines? d rest := by
  have hne : s.isEmpty = false := by
    cases s with
    | nil => simp at hlt
    | cons => rfl
  rw [lines?, hne, hline]
  cases next with
  | none => rfl
  | some d => exact if_pos hlt

/-- The lines of a text are taken one after the other. -/
theorem lines?_of_form (d : Draft) {text : List Char} {lines : List Line}
    (h : LinesForm text lines) : lines? d text = lines.foldlM Draft.add d := by
  induction h generalizing d with
  | nil => exact lines?_nil d
  | @cons cs s rest said lines hline hs _ ih =>
    rw [List.foldlM_append]
    have hadd := line?_of_form d hline hs
    by_cases hlt : rest.length < (cs ++ s).length
    · rw [lines?_of_line? hadd hlt]
      exact bind_congr fun d => ih d
    · -- an empty line at the end of the text
      rcases hs.length_lt with ⟨rfl, rfl⟩ | hlt'
      · have hcs : cs = [] := by simpa using hlt
        rw [hline.eq_none_of_nil hcs, hcs]
        exact ih d
      · rw [List.length_append] at hlt
        omega

theorem LinesForm.ne_mark {text : List Char} {lines : List Line} (h : LinesForm text lines)
    (t : List Char) : text ≠ '\ufeff' :: t := by
  cases h with
  | nil => exact fun heq => List.cons_ne_nil _ _ heq.symm
  | cons hline hs =>
    cases hline with
    | nothing htail => exact ne_cons_of_endLine? (endLine?_of_tail htail hs) (fun _ => rfl) t
    | table hleft =>
      rw [List.append_assoc]
      refine hleft.append_ne (by decide) (fun t heq => ?_) t
      exact absurd (List.cons.inj heq).1 (by decide)
    | pair hleft hkey =>
      rw [List.append_assoc]
      refine hleft.append_ne (by decide) (fun t => ?_) t
      rw [List.append_assoc]
      exact hkey.head_ne (by decide) (by decide) _ t

/-- A document is the fold over what its lines say. -/
theorem document?_of_form {text : List Char} {lines : List Line} (h : LinesForm text lines) :
    document? text = (lines.foldlM Draft.add .empty).map (·.root) := by
  have hmark := h.ne_mark
  unfold document?
  rw [← lines?_of_form .empty h]
  split
  · exact absurd rfl (hmark _)
  · rfl

/-! ## Layouts -/

/-- Keys with their texts, in order. -/
abbrev Texts := List (List Char × List Char)

/-- The lines of the pairs. -/
def Texts.lines (ps : Texts) : List Line :=
  ps.map fun p => .pair p.1 p.2

/-- The entries of a table of texts. -/
def Texts.entries (ps : Texts) : Entries :=
  ps.map fun p => (p.1, .text p.2)

/-- A document of texts: pairs in front of the first header, and then tables with their pairs.
No two keys of a table have one name. -/
structure Layout where
  top : Texts
  tables : List (List Char × Texts)
  names_nodup : (top.map Prod.fst ++ tables.map Prod.fst).Nodup
  keys_nodup : ∀ t ∈ tables, (t.2.map Prod.fst).Nodup

namespace Layout

/-- What the lines of a layout say. -/
def lines (l : Layout) : List Line :=
  l.top.lines ++ l.tables.flatMap fun t => .table t.1 :: t.2.lines

/-- The tables of a layout. -/
def entries (l : Layout) : Entries :=
  l.top.entries ++ l.tables.map fun t => (t.1, .table .header t.2.entries)

end Layout

theorem Texts.map_fst_entries (ps : Texts) : ps.entries.map Prod.fst = ps.map Prod.fst := by
  unfold Texts.entries
  rw [List.map_map]
  rfl

theorem Entries.lookup_append_self {es : Entries} {key : List Char} (h : key ∉ es.map Prod.fst)
    (node : Node) : (es ++ [(key, node)]).lookup key = some node := by
  rw [List.lookup_append, List.lookup_eq_none_of_notMem h]
  simp

/-- A new key goes to the end. -/
theorem Entries.put_new {es : Entries} {key : List Char} (h : key ∉ es.map Prod.fst)
    (node : Node) : es.put key node = es ++ [(key, node)] := by
  induction es with
  | nil => rfl
  | cons e es ih =>
    rw [List.map_cons, List.mem_cons, not_or] at h
    rw [Entries.put, if_neg (Ne.symm h.1), ih h.2]
    rfl

/-- The last key keeps its place. -/
theorem Entries.put_last {es : Entries} {key : List Char} (h : key ∉ es.map Prod.fst)
    (old node : Node) : (es ++ [(key, old)]).put key node = es ++ [(key, node)] := by
  induction es with
  | nil => exact if_pos rfl
  | cons e es ih =>
    rw [List.map_cons, List.mem_cons, not_or] at h
    rw [List.cons_append, Entries.put, if_neg (Ne.symm h.1), ih h.2]
    rfl

/-- A pair in front of the first header. -/
theorem Draft.add_pair_top {es : Entries} {key : List Char} (h : key ∉ es.map Prod.fst)
    (s : List Char) :
    Draft.add ⟨es, []⟩ (.pair key s) = some ⟨es ++ [(key, .text s)], []⟩ := by
  have hlookup := List.lookup_eq_none_of_notMem h
  simp [Draft.add, Draft.assign, Entries.modify, Entries.assign, hlookup, Entries.put_new h]

/-- A header of a new name. -/
theorem Draft.add_table {d : Draft} {name : List Char} (h : name ∉ d.root.map Prod.fst) :
    d.add (.table name) = some ⟨d.root ++ [(name, .table .header [])], [name]⟩ := by
  have hlookup := List.lookup_eq_none_of_notMem h
  simp [Draft.add, Entries.openTable, Entries.modify, hlookup, Entries.put_new h]

/-- A pair below the header that is the last. -/
theorem Draft.add_pair {es inner : Entries} {name key : List Char} (h : name ∉ es.map Prod.fst)
    (hkey : key ∉ inner.map Prod.fst) (s : List Char) :
    Draft.add ⟨es ++ [(name, .table .header inner)], [name]⟩ (.pair key s) =
      some ⟨es ++ [(name, .table .header (inner ++ [(key, .text s)]))], [name]⟩ := by
  have hlookup := List.lookup_eq_none_of_notMem hkey
  have hself := Entries.lookup_append_self h (.table .header inner)
  simp [Draft.add, Draft.assign, Entries.modify, Entries.assign, hlookup, hself,
    Entries.put_new hkey, Entries.put_last h]

/-- Pairs go one after the other to the end of the table that takes them. -/
theorem Draft.foldlM_pairs (place : Entries → Draft)
    (hstep : ∀ es key s, key ∉ es.map Prod.fst →
      (place es).add (.pair key s) = some (place (es ++ [(key, .text s)])))
    (es : Entries) {ps : Texts} (h : (es.map Prod.fst ++ ps.map Prod.fst).Nodup) :
    ps.lines.foldlM Draft.add (place es) = some (place (es ++ ps.entries)) := by
  induction ps generalizing es with
  | nil => simp [Texts.lines, Texts.entries]
  | cons p ps ih =>
    have hp : p.1 ∉ es.map Prod.fst := by
      rw [List.map_cons, List.nodup_middle, List.nodup_cons, List.mem_append, not_or] at h
      exact h.1.1
    have hps : ((es ++ [(p.1, Node.text p.2)]).map Prod.fst ++ ps.map Prod.fst).Nodup := by
      simpa using h
    have hrest := ih _ hps
    change ((place es).add (.pair p.1 p.2) >>= fun d => (Texts.lines ps).foldlM Draft.add d) = _
    rw [hstep es p.1 p.2 hp]
    change (Texts.lines ps).foldlM Draft.add _ = _
    rw [hrest, List.append_assoc]
    rfl

/-- Tables go one after the other behind what is there. -/
theorem Draft.foldlM_tables {d : Draft} {tables : List (List Char × Texts)}
    (hnames : (d.root.map Prod.fst ++ tables.map Prod.fst).Nodup)
    (hkeys : ∀ t ∈ tables, (t.2.map Prod.fst).Nodup) :
    ((tables.flatMap fun t => .table t.1 :: t.2.lines).foldlM Draft.add d).map (·.root) =
      some (d.root ++ tables.map fun t => (t.1, .table .header t.2.entries)) := by
  induction tables generalizing d with
  | nil => simp
  | cons t tables ih =>
    have ht : t.1 ∉ d.root.map Prod.fst := by
      rw [List.map_cons, List.nodup_middle, List.nodup_cons, List.mem_append, not_or] at hnames
      exact hnames.1.1
    have hpairs := Draft.foldlM_pairs
      (fun inner => ⟨d.root ++ [(t.1, .table .header inner)], [t.1]⟩)
      (fun inner key s hkey => Draft.add_pair ht hkey s) []
      (by simpa using hkeys t List.mem_cons_self)
    rw [List.flatMap_cons, List.foldlM_append, List.foldlM_cons, Draft.add_table ht]
    change (Option.bind ((Texts.lines t.2).foldlM Draft.add _) _).map _ = _
    rw [hpairs]
    have hrest := ih (d := ⟨d.root ++ [(t.1, .table .header t.2.entries)], [t.1]⟩)
      (by simpa using hnames) fun t' ht' => hkeys t' (List.mem_cons_of_mem _ ht')
    simpa using hrest

/-- The document of a layout has its tables. -/
theorem Layout.document?_eq (l : Layout) {text : List Char} (h : LinesForm text l.lines) :
    document? text = some l.entries := by
  have hnodup : (l.top.map Prod.fst).Nodup := l.names_nodup.of_append_left
  have htop := Draft.foldlM_pairs (fun es => ⟨es, []⟩)
    (fun es key s hkey => Draft.add_pair_top hkey s) [] hnodup
  have htables := Draft.foldlM_tables (d := ⟨l.top.entries, []⟩)
    (by rw [Texts.map_fst_entries]; exact l.names_nodup) l.keys_nodup
  rw [document?_of_form h, Layout.lines, List.foldlM_append]
  change (Option.bind (l.top.lines.foldlM Draft.add ⟨[], []⟩) _).map _ = _
  rw [htop]
  exact htables

/-! ## Writing a layout down -/

theorem LineForm.exists_of (line : Line) : ∃ cs, LineForm cs (some line) := by
  have htail : TailForm [] := ⟨[], [], areBlanks_nil, .inl rfl, rfl⟩
  cases line with
  | table name =>
    obtain ⟨key, hkey⟩ := exists_stringForm name
    exact ⟨_, .table areBlanks_nil areBlanks_nil (.quoted hkey) areBlanks_nil htail⟩
  | pair name s =>
    obtain ⟨key, hkey⟩ := exists_stringForm name
    obtain ⟨value, hvalue⟩ := exists_stringForm s
    exact ⟨_, .pair areBlanks_nil (.quoted hkey) areBlanks_nil areBlanks_nil hvalue htail⟩

/-- Everything that lines can say can be written down. -/
theorem LinesForm.exists_of (lines : List Line) : ∃ text, LinesForm text lines := by
  induction lines with
  | nil => exact ⟨[], .nil⟩
  | cons line lines ih =>
    obtain ⟨cs, hcs⟩ := LineForm.exists_of line
    obtain ⟨rest, hrest⟩ := ih
    exact ⟨_, .cons hcs (.lineFeed rest) hrest⟩

end OffchainSeal.Toml
