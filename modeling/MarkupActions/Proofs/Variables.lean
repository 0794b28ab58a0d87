import MarkupActions.Proofs.CanonicalText
import MarkupActions.Proofs.Paths

/-!
# MarkupActions.Proofs.Variables

**Variables read back through expressions.** An expression is tried as a literal of five kinds before
it is looked up, so a variable is only found if no literal looks like its location. None does, except
for the four words: a location begins with a letter, an underscore or a dollar sign, and quotes,
numbers and JSON begin with something else. Names such as `inf`, `nan` and `e5` are numbers only
behind a digit or a minus.

The variables themselves are under single identifiers, since a write cuts its location at every dot
and goes by the first segment. This holds of the variables that are written one after the other from
none at all (`DataModel.Written`).
-/

namespace MarkupActions

/-! ### Blanks around a text -/

namespace Text

/-- A text of blanks alone. -/
def Blanks (s : String) : Prop := ∀ c ∈ s.toList, isBlank c = true

instance (s : String) : Decidable (Blanks s) :=
  decidable_of_iff (s.toList.all isBlank = true) List.all_eq_true

theorem dropWhile_isBlank_append {before cs : List Char} (h : ∀ c ∈ before, isBlank c = true)
    (hcs : ∀ c ∈ cs.head?, isBlank c = false) : (before ++ cs).dropWhile isBlank = cs := by
  rw [List.dropWhile_append_of_pos h, dropWhile_isBlank hcs]

/-- Blanks around a text that has none are trimmed off. -/
theorem trim_between {before after s : String} (hbefore : Blanks before) (hafter : Blanks after)
    (hne : s.toList ≠ []) (h : ∀ c ∈ s.toList, isBlank c = false) :
    trim (before ++ s ++ after) = s := by
  have hstart : (before.toList ++ (s.toList ++ after.toList)).dropWhile isBlank =
      s.toList ++ after.toList := by
    refine dropWhile_isBlank_append hbefore fun c hc => ?_
    rw [List.head?_append_of_ne_nil _ hne] at hc
    exact h c (List.mem_of_mem_head? hc)
  have hend : (after.toList.reverse ++ s.toList.reverse).dropWhile isBlank = s.toList.reverse := by
    refine dropWhile_isBlank_append (fun c hc => hafter c (List.mem_reverse.mp hc)) fun c hc => ?_
    exact h c (List.mem_reverse.mp (List.mem_of_mem_head? hc))
  rw [← String.toList_inj, toList_trim, String.toList_append, String.toList_append,
    List.append_assoc, trimChars, hstart, trimEnd, List.reverse_append, hend, List.reverse_reverse]

end Text

/-! ### The characters of a location -/

namespace Location

variable {c : Char} {cs : List Char} {inside : Bool}

theorem isBlank_of_isPart (h : isPart c = true) : Text.isBlank c = false := by
  simp only [isPart, isStart, Text.isAsciiLetter, Text.isAsciiDigit, Bool.or_eq_true,
    Bool.and_eq_true, decide_eq_true_eq, Char.le_def, UInt32.le_iff_toNat_le, Char.toNat_val,
    ← Char.toNat_inj, Char.reduceToNat] at h
  simp only [Text.isBlank, Bool.or_eq_false_iff, Bool.and_eq_false_iff, decide_eq_false_iff_not,
    beq_eq_false_iff_ne]
  omega

/-- A character that is taken inside an identifier, or at the start of one: more are to be read
inside. -/
theorem accepts_cons_of_ne (hc : c ≠ '.') : accepts inside (c :: cs) = true ↔
    (if inside then isPart c else isStart c) = true ∧ accepts true cs = true := by
  cases inside with
  | false => rw [accepts, Bool.and_eq_true]; rfl
  | true => rw [accepts, if_neg hc, Bool.and_eq_true]; rfl

/-- A dot ends an identifier. -/
theorem accepts_dot : accepts inside ('.' :: cs) = true ↔
    inside = true ∧ accepts false cs = true := by
  cases inside with
  | false => exact iff_of_false (by simp [accepts, show isStart '.' = false from rfl]) nofun
  | true => rw [accepts, if_pos rfl]; exact (and_iff_right rfl).symm

theorem not_isBlank_of_accepts (h : accepts inside cs = true) :
    ∀ c ∈ cs, Text.isBlank c = false := by
  induction cs generalizing inside with
  | nil => exact nofun
  | cons c cs ih =>
    by_cases hc : c = '.'
    · subst hc
      exact List.forall_mem_cons.mpr ⟨by decide, ih (accepts_dot.mp h).2⟩
    · obtain ⟨hpart, hrest⟩ := (accepts_cons_of_ne hc).mp h
      refine List.forall_mem_cons.mpr ⟨isBlank_of_isPart ?_, ih hrest⟩
      cases inside with
      | false => exact Bool.or_eq_true_iff.mpr (.inl hpart)
      | true => exact hpart

/-- What a dot cuts a location into are single identifiers. -/
theorem accepts_splitOn (h : accepts inside cs = true) {first : List Char}
    {rest : List (List Char)} (hpieces : cs.splitOn '.' = first :: rest) :
    accepts inside first = true ∧ ∀ piece ∈ rest, accepts false piece = true := by
  induction cs generalizing inside first rest with
  | nil =>
    cases hpieces
    exact ⟨h, nofun⟩
  | cons c cs ih =>
    obtain ⟨next, more, hnext⟩ := List.exists_cons_of_ne_nil (List.splitOn_ne_nil '.' cs)
    by_cases hc : c = '.'
    · subst hc
      obtain ⟨rfl, hrest⟩ := accepts_dot.mp h
      obtain ⟨hfirst, hmore⟩ := ih hrest hnext
      rw [List.splitOn_cons_eq_if_modifyHead, if_pos BEq.rfl, hnext] at hpieces
      cases hpieces
      exact ⟨rfl, List.forall_mem_cons.mpr ⟨hfirst, hmore⟩⟩
    · obtain ⟨hpart, hrest⟩ := (accepts_cons_of_ne hc).mp h
      obtain ⟨hfirst, hmore⟩ := ih hrest hnext
      rw [List.splitOn_cons_eq_if_modifyHead, if_neg (by simpa using hc), hnext] at hpieces
      cases hpieces
      exact ⟨(accepts_cons_of_ne hc).mpr ⟨hpart, hfirst⟩, hmore⟩

/-- The segments of a location are locations. -/
theorem isLocation_of_mem_segments {l segment : String} (hl : isLocation l = true)
    (h : segment ∈ segments l) : isLocation segment = true := by
  obtain ⟨piece, hpiece, rfl⟩ := List.mem_map.mp h
  obtain ⟨first, rest, hpieces⟩ := List.exists_cons_of_ne_nil (List.splitOn_ne_nil '.' l.toList)
  obtain ⟨hfirst, hrest⟩ := accepts_splitOn hl hpieces
  rw [hpieces] at hpiece
  rw [isLocation, String.toList_ofList]
  rcases List.mem_cons.mp hpiece with rfl | hpiece
  · exact hfirst
  · exact hrest piece hpiece

/-- A location begins with a character that begins an identifier. -/
theorem exists_toList_eq_cons {l : String} (hl : isLocation l = true) :
    ∃ c cs, l.toList = c :: cs ∧ isStart c = true := by
  rw [isLocation] at hl
  cases htext : l.toList with
  | nil =>
    rw [htext] at hl
    cases hl
  | cons c cs =>
    rw [htext, accepts, Bool.and_eq_true] at hl
    exact ⟨c, cs, rfl, hl.1⟩

end Location

/-! ### Locations as expressions -/

namespace Expression

/-- The words that stand for values, and these. -/
def words : List (String × Value) :=
  [("null", .null), ("undefined", .null), ("true", .bool true), ("false", .bool false)]

/-- A text that stands for a value of its own. -/
def IsWord (s : String) : Prop := s ∈ words.map Prod.fst

instance (s : String) : Decidable (IsWord s) :=
  inferInstanceAs (Decidable (s ∈ words.map Prod.fst))

theorem word?_eq_none {s : String} (h : ¬ IsWord s) : word? s.toList = none := by
  simp only [IsWord, words, List.map_cons, List.map_nil, List.mem_cons, List.not_mem_nil, or_false,
    not_or] at h
  obtain ⟨hnull, hundefined, htrue, hfalse⟩ := h
  simp only [word?, String.toList_inj, hnull, hundefined, htrue, hfalse, or_self, if_false]

/-- What begins like an identifier begins with no quote, no sign, no digit and no bracket. -/
theorem ne_of_isStart {c d : Char} (h : Location.isStart c = true)
    (hd : Location.isStart d = false) : c ≠ d := by
  rintro rfl
  exact Bool.eq_false_iff.mp hd h

theorem isAsciiDigit_of_isStart {c : Char} (h : Location.isStart c = true) :
    Text.isAsciiDigit c = false := by
  simp only [Location.isStart, Text.isAsciiLetter, Bool.or_eq_true, Bool.and_eq_true,
    decide_eq_true_eq, Char.le_def, UInt32.le_iff_toNat_le, Char.toNat_val, ← Char.toNat_inj,
    Char.reduceToNat] at h
  simp only [Text.isAsciiDigit, Bool.and_eq_false_iff, decide_eq_false_iff_not, Char.le_def,
    UInt32.le_iff_toNat_le, Char.toNat_val, Char.reduceToNat]
  omega

/-- Neither an integer nor any other number: `inf`, `nan` and `e5` are locations. -/
theorem number?_of_isStart {c : Char} (h : Location.isStart c = true) (cs : List Char) :
    number? (c :: cs) = none := by
  have hdigit := isAsciiDigit_of_isStart h
  have hminus : c ≠ '-' := ne_of_isStart h rfl
  have hplus : c ≠ '+' := ne_of_isStart h rfl
  have hint : Decimal.readInt? (c :: cs) = none := by
    simp [Decimal.readInt?, Decimal.takeSign, hminus, hplus, Decimal.isDigits, hdigit]
  simp [number?, hint, hdigit, hminus]

/-- A name could only be a word: what begins like an identifier is no text in quotes, no number and
no JSON. -/
theorem literal?_of_isStart {c : Char} (h : Location.isStart c = true) (cs : List Char) :
    literal? (c :: cs) = word? (c :: cs) := by
  have hjson : json? (c :: cs) = none :=
    if_neg (not_or_intro (ne_of_isStart h rfl) (ne_of_isStart h rfl))
  rw [literal?, unquote?_cons (ne_of_isStart h rfl), unquote?_cons (ne_of_isStart h rfl),
    number?_of_isStart h, hjson]
  cases word? (c :: cs) <;> rfl

end Expression

namespace DataModel

variable {before after l : String}

/-- An expression is looked up with blanks around it as it is without. -/
theorem evaluate_location (hl : isLocation l = true) (hword : ¬ Expression.IsWord l)
    (hbefore : Text.Blanks before) (hafter : Text.Blanks after) (m : DataModel) :
    m.evaluate (before ++ l ++ after) = (m.get? l).elim (.error (.undefined l)) .ok := by
  obtain ⟨c, cs, htext, hstart⟩ := Location.exists_toList_eq_cons hl
  have htrim : Text.trim (before ++ l ++ after) = l :=
    Text.trim_between hbefore hafter (by rw [htext]; exact List.cons_ne_nil c cs)
      (Location.not_isBlank_of_accepts hl)
  have hliteral : Expression.literal? l.toList = none := by
    rw [htext, Expression.literal?_of_isStart hstart, ← htext, Expression.word?_eq_none hword]
  simp only [evaluate, htrim, hliteral, hl, if_true]
  cases m.get? l <;> rfl

/-- The words come to the same over all variables, also over those of the same name. -/
theorem evaluate_word {word : String} {v : Value} (h : (word, v) ∈ Expression.words)
    (hbefore : Text.Blanks before) (hafter : Text.Blanks after) (m : DataModel) :
    m.evaluate (before ++ word ++ after) = .ok v := by
  have hword : word.toList ≠ [] ∧ (∀ c ∈ word.toList, Text.isBlank c = false) ∧
      Expression.literal? word.toList = some v := by
    simp only [Expression.words, List.mem_cons, List.not_mem_nil, or_false, Prod.mk.injEq] at h
    rcases h with ⟨rfl, rfl⟩ | ⟨rfl, rfl⟩ | ⟨rfl, rfl⟩ | ⟨rfl, rfl⟩ <;>
      exact ⟨by decide, by simp [Text.isBlank], rfl⟩
  obtain ⟨hne, hblank, hliteral⟩ := hword
  simp only [evaluate, Text.trim_between hbefore hafter hne hblank, hliteral]

end DataModel

/-! ### The names of the variables -/

namespace Value

/-- Putting a value at a place adds no other key than the name. -/
theorem mem_keys_putAt {v : Value} {name key : String} {rest : List String}
    {members : Entries Value} (h : key ∈ Entries.keys (v.putAt name rest members).1) :
    key = name ∨ key ∈ Entries.keys members := by
  cases rest with
  | nil => exact Entries.mem_keys_insert h
  | cons next rest =>
    cases hf : Entries.find? name members with
    | none =>
      rw [putAt_cons_unbound hf] at h
      exact Entries.mem_keys_insert h
    | some w =>
      by_cases hw : w.IsObject
      · obtain ⟨old, rfl⟩ := hw
        rw [putAt_cons_object hf, Entries.keys_replace] at h
        exact .inr h
      · rw [putAt_cons_refused hf hw] at h
        exact .inr h

end Value

namespace DataModel

variable {m : DataModel}

/-- The variables after any number of writes, from none at all. A write that is refused counts too. -/
inductive Written : DataModel → Prop where
  | empty : Written .empty
  | write {m : DataModel} (h : Written m) (location : String) (v : Value) :
      Written (m.write location v).1

/-- A write makes at most the variable that its location begins with. -/
theorem mem_keys_write {location key : String} {v : Value}
    (h : key ∈ (m.write location v).1.vars.keys) :
    key ∈ m.vars.keys ∨ isLocation location = true ∧ key ∈ Location.segments location := by
  by_cases hl : isLocation location = true
  · obtain ⟨first, rest, hs⟩ := Location.exists_segments_eq_cons location
    rw [Dict.keys, (write_eq hl hs).1] at h
    rcases Value.mem_keys_putAt h with rfl | h
    · exact .inr ⟨hl, by rw [hs]; exact List.mem_cons_self⟩
    · exact .inl h
  · rw [write_of_not_location (Bool.eq_false_iff.mpr hl)] at h
    exact .inl h

/-- Variables that were written have names that are locations without dots. -/
theorem Written.isLocation_of_mem_keys (h : m.Written) :
    ∀ key ∈ m.vars.keys, isLocation key = true ∧ '.' ∉ key.toList := by
  induction h with
  | empty => exact nofun
  | write _ location v ih =>
    intro key hkey
    rcases mem_keys_write hkey with hkey | ⟨hl, hsegment⟩
    · exact ih key hkey
    · exact ⟨Location.isLocation_of_mem_segments hl hsegment,
        Location.dot_not_mem_of_mem_segments hsegment⟩

/-- A location is an expression for what is there. -/
theorem evaluate_location_eq_ok_iff {before after l : String} (hl : isLocation l = true)
    (hword : ¬ Expression.IsWord l) (hbefore : Text.Blanks before) (hafter : Text.Blanks after)
    (m : DataModel) (v : Value) :
    m.evaluate (before ++ l ++ after) = .ok v ↔ m.get? l = some v := by
  rw [evaluate_location hl hword hbefore hafter m]
  cases m.get? l with
  | none => exact iff_of_false nofun nofun
  | some w => exact ⟨fun h => congrArg some (Except.ok.inj h), fun h => congrArg _ (Option.some.inj h)⟩

/-- **Variables read back through expressions.** Whatever has been written, each variable is under a
single identifier. A location other than the four words, with blanks around it or without, is an
expression for what is there, and is refused just where nothing is; so a value that has been put
there is read back. The words are expressions for their own values, whatever variables there are. -/
theorem Written.read_back (h : m.Written) :
    (∀ key ∈ m.vars.keys, isLocation key = true ∧ '.' ∉ key.toList) ∧
    ∀ before after, Text.Blanks before → Text.Blanks after →
      (∀ l, isLocation l = true → ¬ Expression.IsWord l →
        (∀ v, m.evaluate (before ++ l ++ after) = .ok v ↔ m.get? l = some v) ∧
        ((∃ e, m.evaluate (before ++ l ++ after) = .error e) ↔ m.get? l = none) ∧
        ∀ v m', m.set l v = .ok m' → m'.evaluate (before ++ l ++ after) = .ok v) ∧
      ∀ word v, (word, v) ∈ Expression.words → m.evaluate (before ++ word ++ after) = .ok v := by
  refine ⟨h.isLocation_of_mem_keys, fun before after hbefore hafter => ⟨fun l hl hword => ?_,
    fun word v hmem => evaluate_word hmem hbefore hafter m⟩⟩
  refine ⟨evaluate_location_eq_ok_iff hl hword hbefore hafter m, ?_, fun v m' hset => ?_⟩
  · rw [evaluate_location hl hword hbefore hafter m]
    cases m.get? l with
    | none => exact iff_of_true ⟨_, rfl⟩ rfl
    | some w => exact iff_of_false nofun nofun
  · rw [evaluate_location_eq_ok_iff hl hword hbefore hafter m']
    cases hresult : (m.write l v).2 with
    | error e =>
      rw [set, hresult] at hset
      cases hset
    | ok =>
      rw [set, hresult] at hset
      cases hset
      rw [get?_write_append hresult (List.append_nil _).symm, Value.lookup?_nil]

/-- Locations that look like numbers, and a variable with the name of a word. -/
def oddVariables : DataModel :=
  ((DataModel.empty.write "inf.e5" (.int 1)).1.write "null" (.int 2)).1

theorem Written.read_back_oddVariables :
    oddVariables.Written ∧ oddVariables.evaluate ("\t" ++ "inf.e5" ++ " ") = .ok (.int 1) ∧
      oddVariables.get? "null" = some (.int 2) ∧
      oddVariables.evaluate ("" ++ "null" ++ "") = .ok .null := by
  have h : oddVariables.Written := (Written.empty.write "inf.e5" (.int 1)).write "null" (.int 2)
  obtain ⟨-, hread⟩ := h.read_back
  obtain ⟨hlocation, -⟩ := hread "\t" " " (by decide) (by decide)
  obtain ⟨-, hword⟩ := hread "" "" (by decide) (by decide)
  obtain ⟨hvalue, -⟩ := hlocation "inf.e5" (by decide) (by decide)
  exact ⟨h, (hvalue (.int 1)).mpr rfl, rfl, hword "null" .null List.mem_cons_self⟩

end DataModel

end MarkupActions
