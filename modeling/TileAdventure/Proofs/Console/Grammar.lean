import Mathlib.Data.List.Nodup
import TileAdventure.Console.Command
import TileAdventure.Proofs.Outcome
import TileAdventure.Proofs.Text.Words

/-!
# The grammar of commands

Each command has a name and takes certain arguments (`Command.name`, `Command.Takes`), and words
spell it if the first of them is the name, in small letters or capitals, and the others are such
arguments (`Command.Spells`). The reader of a form gives just the commands of that name whose
arguments it is given (`takes_of_read`, `exists_form`). So a line is read as a command just if its
words spell it, and a line with words that spell none is an error (`parse_of_words`).
-/

namespace TileAdventure

/-- The word for a direction. -/
def Direction.word : Direction → String
  | .up => "up"
  | .down => "down"
  | .left => "left"
  | .right => "right"

/-- The identifier of the arrow of a direction. -/
def Direction.identifier : Direction → String
  | .up => "ArrowUp"
  | .down => "ArrowDown"
  | .left => "ArrowLeft"
  | .right => "ArrowRight"

namespace Command

variable {command : Command} {form : Form} {word other : Word} {args ws : List Word}

/-! ## What words stand for -/

/-- The word stands for an arrow: it is the word for its direction, in small letters or capitals,
or it is the arrow's identifier. -/
def NamesArrow (word : Word) (direction : Direction) : Prop :=
  Text.lower word = direction.word.toList ∨ word = direction.identifier.toList

/-- The word stands for a key: an arrow, or else the key with this identifier. -/
def NamesKey (word : Word) : Key → Prop
  | .arrow direction => NamesArrow word direction
  | .other name => (∀ direction, ¬NamesArrow word direction) ∧ word = name.toList

/-- The word is a numeral of the single `x`. -/
def NamesSingle (word : Word) (x : Float32) : Prop :=
  ∃ n, Decimal.Numeral.read? word = some n ∧ n.toSingle = x

/-- The word is a numeral of the double `x`. -/
def NamesDouble (word : Word) (x : Float) : Prop :=
  ∃ n, Decimal.Numeral.read? word = some n ∧ n.toDouble = x

/-- The words are numerals of the coordinates of a point. -/
def NamesPoint (args : List Word) (point : Point) : Prop :=
  ∃ x y, args = [x, y] ∧ NamesSingle x point.x ∧ NamesSingle y point.y

/-! ## The grammar -/

/-- The name of a command. -/
def name : Command → String
  | help => "help"
  | quit => "quit"
  | keyDown _ => "down"
  | keyUp _ => "up"
  | press _ => "press"
  | touch _ => "pointer-down"
  | drag _ => "pointer-move"
  | lift => "pointer-up"
  | tick _ => "tick"
  | confirm => "confirm"
  | state => "state"
  | inventory => "inventory"

/-- The words are arguments that make up the command. -/
def Takes : Command → List Word → Prop
  | help, args | quit, args | lift, args | confirm, args | state, args | inventory, args =>
    args = []
  | keyDown key, args | keyUp key, args => ∃ word, args = [word] ∧ NamesKey word key
  | press direction, args => ∃ word, args = [word] ∧ NamesArrow word direction
  | touch point, args | drag point, args => NamesPoint args point
  | tick elapsed, args =>
    ∃ word, args = [word] ∧ NamesDouble word elapsed ∧ elapsed.isFinite = true ∧ 0 ≤ elapsed

/-- The words spell the command: its name, in small letters or capitals, and arguments that make
it up. -/
def Spells (ws : List Word) (command : Command) : Prop :=
  ∃ word args, ws = word :: args ∧ Text.lower word = command.name.toList ∧ command.Takes args

/-! ## Keys -/

theorem ofList_eq_iff {cs : List Char} {s : String} : String.ofList cs = s ↔ cs = s.toList := by
  rw [← String.toList_inj, String.toList_ofList]

/-- The arrow that a word stands for is read. -/
theorem key_of_namesArrow {d : Direction} (h : NamesArrow word d) :
    Command.key word = .arrow d := by
  rcases h with h | rfl
  · rw [Command.key, ofList_eq_iff.mpr h]
    cases d <;> rfl
  · cases d <;> rfl

/-- What is read is an arrow that the word stands for, or the word as an identifier. -/
theorem key_cases (word : Word) :
    (∃ d, Command.key word = .arrow d ∧ NamesArrow word d) ∨
      Command.key word = .other (String.ofList word) := by
  unfold Command.key
  split
  · exact Or.inl ⟨_, rfl, Or.inl (ofList_eq_iff.mp ‹_›)⟩
  · exact Or.inl ⟨_, rfl, Or.inl (ofList_eq_iff.mp ‹_›)⟩
  · exact Or.inl ⟨_, rfl, Or.inl (ofList_eq_iff.mp ‹_›)⟩
  · exact Or.inl ⟨_, rfl, Or.inl (ofList_eq_iff.mp ‹_›)⟩
  · unfold Key.ofIdentifier
    split
    · exact Or.inl ⟨_, rfl, Or.inr (ofList_eq_iff.mp ‹_›)⟩
    · exact Or.inl ⟨_, rfl, Or.inr (ofList_eq_iff.mp ‹_›)⟩
    · exact Or.inl ⟨_, rfl, Or.inr (ofList_eq_iff.mp ‹_›)⟩
    · exact Or.inl ⟨_, rfl, Or.inr (ofList_eq_iff.mp ‹_›)⟩
    · exact Or.inr rfl

/-- A word is read as the one key that it stands for. -/
theorem key_eq_iff {key : Key} : Command.key word = key ↔ NamesKey word key := by
  cases key with
  | arrow d =>
    refine ⟨fun h => ?_, key_of_namesArrow⟩
    rcases key_cases word with ⟨d', hkey, hnames⟩ | hkey
    · cases hkey.symm.trans h
      exact hnames
    · cases hkey.symm.trans h
  | other name =>
    constructor
    · intro h
      have hnot : ∀ d, ¬NamesArrow word d := fun d hd => by
        cases (key_of_namesArrow hd).symm.trans h
      rcases key_cases word with ⟨d, -, hnames⟩ | hkey
      · exact (hnot d hnames).elim
      · cases hkey.symm.trans h
        exact ⟨hnot, String.toList_ofList.symm⟩
    · rintro ⟨hnot, rfl⟩
      rcases key_cases name.toList with ⟨d, -, hnames⟩ | hkey
      · exact (hnot d hnames).elim
      · rw [hkey, String.ofList_toList]

/-! ## Reading arguments -/

theorem noArguments_eq_ok {c : Command} :
    noArguments command args = .ok c ↔ args = [] ∧ command = c := by
  unfold noArguments
  cases args <;> simp

theorem oneArgument_eq_ok {name : String} : oneArgument name args = .ok word ↔ args = [word] := by
  unfold oneArgument
  split <;> simp_all

theorem direction_eq_ok {d : Direction} : direction word = .ok d ↔ NamesArrow word d := by
  have hkey : key word = .arrow d ↔ NamesArrow word d := key_eq_iff
  rw [← hkey, direction]
  cases key word <;> simp [Key.direction?]

theorem coordinate_eq_ok {x : Float32} : coordinate word = .ok x ↔ NamesSingle word x := by
  unfold coordinate NamesSingle
  cases Decimal.Numeral.read? word <;> simp

theorem point_eq_ok {p : Point} : point args = .ok p ↔ NamesPoint args p := by
  unfold NamesPoint
  constructor
  · intro h
    unfold point at h
    split at h
    · rename_i x y
      obtain ⟨a, ha, h⟩ := bind_eq_ok.mp h
      obtain ⟨b, hb, h⟩ := bind_eq_ok.mp h
      cases h
      exact ⟨x, y, rfl, coordinate_eq_ok.mp ha, coordinate_eq_ok.mp hb⟩
    · cases h
  · rintro ⟨x, y, rfl, hx, hy⟩
    rw [point, coordinate_eq_ok.mpr hx, coordinate_eq_ok.mpr hy]
    rfl

theorem duration_eq_ok {x : Float} : duration word = .ok x ↔
    NamesDouble word x ∧ x.isFinite = true ∧ 0 ≤ x := by
  unfold duration NamesDouble
  cases Decimal.Numeral.read? word with
  | none => simp
  | some n =>
    simp only [Option.map_some, Option.some.injEq, exists_eq_left']
    split
    · rename_i h
      simp only [Bool.and_eq_true, decide_eq_true_eq] at h
      constructor
      · intro hx
        cases hx
        exact ⟨rfl, h⟩
      · rintro ⟨rfl, -⟩
        rfl
    · rename_i h
      simp only [Bool.and_eq_true, decide_eq_true_eq] at h
      constructor
      · nofun
      · rintro ⟨rfl, hx⟩
        exact (h hx).elim

/-! ## Reading forms -/

/-- No two forms have the same name. -/
theorem eq_of_name {form form' : Form} (h : form ∈ forms) (h' : form' ∈ forms)
    (hname : form.name = form'.name) : form = form' := by
  have hnodup : (forms.map Form.name).Nodup := by decide
  exact List.inj_on_of_nodup_map hnodup h h' hname

/-- A form gives commands of its name only, with the arguments that it is given. -/
theorem takes_of_read : ∀ form ∈ forms, ∀ args command, form.read args = .ok command →
    command.name = form.name ∧ command.Takes args := by
  simp only [forms, List.forall_mem_cons]
  refine ⟨?help, ?down, ?up, ?press, ?touch, ?drag, ?lift, ?tick, ?confirm, ?state, ?inventory,
    ?quit, nofun⟩
  case help | lift | confirm | state | inventory | quit =>
    intro args command hread
    obtain ⟨hargs, rfl⟩ := noArguments_eq_ok.mp hread
    exact ⟨rfl, hargs⟩
  case down | up =>
    intro args command hread
    obtain ⟨word, hword, rfl⟩ := map_eq_ok.mp hread
    exact ⟨rfl, word, oneArgument_eq_ok.mp hword, key_eq_iff.mp rfl⟩
  case press =>
    intro args command hread
    obtain ⟨d, hargument, rfl⟩ := map_eq_ok.mp hread
    obtain ⟨word, hword, hd⟩ := bind_eq_ok.mp hargument
    exact ⟨rfl, word, oneArgument_eq_ok.mp hword, direction_eq_ok.mp hd⟩
  case touch | drag =>
    intro args command hread
    obtain ⟨p, hp, rfl⟩ := map_eq_ok.mp hread
    exact ⟨rfl, point_eq_ok.mp hp⟩
  case tick =>
    intro args command hread
    obtain ⟨x, hargument, rfl⟩ := map_eq_ok.mp hread
    obtain ⟨word, hword, hx⟩ := bind_eq_ok.mp hargument
    exact ⟨rfl, word, oneArgument_eq_ok.mp hword, duration_eq_ok.mp hx⟩

/-- There is a form for each command, which gives it when it is given its arguments. -/
theorem exists_form (command : Command) :
    ∃ form ∈ forms, form.name = command.name ∧
      ∀ args, command.Takes args → form.read args = .ok command := by
  have hplain : ∀ {c : Command} (args : List Word), args = [] → noArguments c args = .ok c :=
    fun _ h => noArguments_eq_ok.mpr ⟨h, rfl⟩
  cases command with
  | help => exact ⟨forms[0], List.getElem_mem _, rfl, hplain⟩
  | keyDown key =>
    refine ⟨forms[1], List.getElem_mem _, rfl, fun args ⟨word, hargs, hkey⟩ => ?_⟩
    exact map_eq_ok.mpr
      ⟨word, oneArgument_eq_ok.mpr hargs, congrArg keyDown (key_eq_iff.mpr hkey)⟩
  | keyUp key =>
    refine ⟨forms[2], List.getElem_mem _, rfl, fun args ⟨word, hargs, hkey⟩ => ?_⟩
    exact map_eq_ok.mpr
      ⟨word, oneArgument_eq_ok.mpr hargs, congrArg keyUp (key_eq_iff.mpr hkey)⟩
  | press d =>
    refine ⟨forms[3], List.getElem_mem _, rfl, fun args ⟨word, hargs, hd⟩ => ?_⟩
    exact map_eq_ok.mpr ⟨d, bind_eq_ok.mpr
      ⟨word, oneArgument_eq_ok.mpr hargs, direction_eq_ok.mpr hd⟩, rfl⟩
  | touch p =>
    refine ⟨forms[4], List.getElem_mem _, rfl, fun args hp => ?_⟩
    exact map_eq_ok.mpr ⟨p, point_eq_ok.mpr hp, rfl⟩
  | drag p =>
    refine ⟨forms[5], List.getElem_mem _, rfl, fun args hp => ?_⟩
    exact map_eq_ok.mpr ⟨p, point_eq_ok.mpr hp, rfl⟩
  | lift => exact ⟨forms[6], List.getElem_mem _, rfl, hplain⟩
  | tick x =>
    refine ⟨forms[7], List.getElem_mem _, rfl, fun args ⟨word, hargs, hx⟩ => ?_⟩
    exact map_eq_ok.mpr ⟨x, bind_eq_ok.mpr
      ⟨word, oneArgument_eq_ok.mpr hargs, duration_eq_ok.mpr hx⟩, rfl⟩
  | confirm => exact ⟨forms[8], List.getElem_mem _, rfl, hplain⟩
  | state => exact ⟨forms[9], List.getElem_mem _, rfl, hplain⟩
  | inventory => exact ⟨forms[10], List.getElem_mem _, rfl, hplain⟩
  | quit => exact ⟨forms[11], List.getElem_mem _, rfl, hplain⟩

/-! ## Reading lines -/

/-- The form that is looked up is the one with the name. -/
theorem find?_forms_eq_some {name : String} :
    forms.find? (·.name = name) = some form ↔ form ∈ forms ∧ form.name = name := by
  constructor
  · intro h
    exact ⟨List.mem_of_find?_eq_some h, by simpa using List.find?_some h⟩
  · rintro ⟨hmem, hname⟩
    have hsome : (forms.find? (·.name = name)).isSome :=
      List.find?_isSome.mpr ⟨form, hmem, by simpa using hname⟩
    obtain ⟨found, hfound⟩ := Option.isSome_iff_exists.mp hsome
    have hsame : found.name = form.name := by
      rw [hname]
      simpa using List.find?_some hfound
    rw [hfound, eq_of_name (List.mem_of_find?_eq_some hfound) hmem hsame]

/-- If no form is found, the name is that of no command. -/
theorem name_ne_of_find?_eq_none {name : String} (h : forms.find? (·.name = name) = none)
    (command : Command) : command.name ≠ name := by
  intro hname
  obtain ⟨form, hmem, hform, -⟩ := exists_form command
  rw [find?_forms_eq_some.mpr ⟨hmem, hform.trans hname⟩] at h
  cases h

/-- Words are read as no command just if there are none. -/
theorem ofWords_eq_none : ofWords ws = .ok none ↔ ws = [] := by
  cases ws with
  | nil => simp [ofWords]
  | cons word args =>
    simp only [ofWords, reduceCtorEq, iff_false]
    split
    · nofun
    · rename_i form hform
      cases form.read args <;> nofun

/-- Words are read by the form with the name that is the first of them. -/
theorem ofWords_cons_eq_some : ofWords (word :: args) = .ok (some command) ↔
    ∃ form ∈ forms, form.name = String.ofList (Text.lower word) ∧
      form.read args = .ok command := by
  unfold ofWords
  dsimp only
  split
  · rename_i hnone
    have hnot : ¬∃ form ∈ forms, form.name = String.ofList (Text.lower word) ∧
        form.read args = .ok command := by
      rintro ⟨form, hmem, hname, -⟩
      rw [find?_forms_eq_some.mpr ⟨hmem, hname⟩] at hnone
      cases hnone
    simp [hnot]
  · rename_i form hform
    obtain ⟨hmem, hname⟩ := find?_forms_eq_some.mp hform
    rw [mapError_eq_ok, map_eq_ok]
    constructor
    · rintro ⟨c, hread, hc⟩
      cases hc
      exact ⟨form, hmem, hname, hread⟩
    · rintro ⟨form', hmem', hname', hread⟩
      rw [eq_of_name hmem' hmem (hname'.trans hname.symm)] at hread
      exact ⟨command, hread, rfl⟩

/-- Words are read as a command just if they spell it. -/
theorem ofWords_eq_some : ofWords ws = .ok (some command) ↔ Spells ws command := by
  cases ws with
  | nil => simp [ofWords, Spells]
  | cons word args =>
    rw [ofWords_cons_eq_some]
    constructor
    · rintro ⟨form, hmem, hform, hread⟩
      obtain ⟨hname, htakes⟩ := takes_of_read form hmem args command hread
      exact ⟨word, args, rfl, ofList_eq_iff.mp (hname.trans hform).symm, htakes⟩
    · rintro ⟨_, _, hws, hname, htakes⟩
      obtain ⟨rfl, rfl⟩ := List.cons.inj hws
      obtain ⟨form, hmem, hform, hread⟩ := exists_form command
      exact ⟨form, hmem, hform.trans (ofList_eq_iff.mpr hname).symm, hread _ htakes⟩

/-- Words that spell no command are an error. -/
theorem ofWords_eq_error : (∃ error, ofWords ws = .error error) ↔
    ws ≠ [] ∧ ∀ command, ¬Spells ws command := by
  simp only [← ofWords_eq_some, ne_eq, ← ofWords_eq_none]
  cases ofWords ws with
  | error error => simp
  | ok read => cases read <;> simp

/-- The letters of the name may be small or capital. If it is the name of no command, it is
quoted as it is. -/
theorem ofWords_recased (h : Text.lower other = Text.lower word) :
    ofWords (other :: args) = ofWords (word :: args) ∨
      (∀ command : Command, Text.lower word ≠ command.name.toList) ∧
        ofWords (word :: args) = .error (.unknown (String.ofList word)) ∧
        ofWords (other :: args) = .error (.unknown (String.ofList other)) := by
  simp only [ofWords, h]
  cases hform : forms.find? (·.name = String.ofList (Text.lower word)) with
  | some form => exact Or.inl rfl
  | none =>
    refine Or.inr ⟨fun command hname => ?_, rfl, rfl⟩
    exact name_ne_of_find?_eq_none hform command (ofList_eq_iff.mpr hname).symm

/-- How a line is read, for every line: by the words in it alone, and by the first of them only
up to small letters and capitals, except that it is quoted where it is the name of no command. The
line is no command just if it has no words, and a command just if its words spell it: the first is
the name of the command, and the others its arguments. A line with words that spell no command is
an error. What is pressed is an arrow that a word of the line stands for, and a tick takes a
finite time that is not negative. -/
theorem parse_of_words (line : String) :
    ∃ ws, Text.HasWords line.toList ws ∧
      (∀ other : String, Text.HasWords other.toList ws → parse other = parse line) ∧
      (∀ (other : String) (word word' : Word) (args : List Word), ws = word :: args →
        Text.HasWords other.toList (word' :: args) → Text.lower word' = Text.lower word →
        parse other = parse line ∨
          (∀ command : Command, Text.lower word ≠ command.name.toList) ∧
            parse line = .error (.unknown (String.ofList word)) ∧
            parse other = .error (.unknown (String.ofList word'))) ∧
      (parse line = .ok none ↔ ws = []) ∧
      (∀ command, parse line = .ok (some command) ↔ Spells ws command) ∧
      ((∃ error, parse line = .error error) ↔ ws ≠ [] ∧ ∀ command, ¬Spells ws command) ∧
      (∀ direction, parse line = .ok (some (.press direction)) →
        ∃ name word, ws = [name, word] ∧ NamesKey word (.arrow direction)) ∧
      ∀ elapsed, parse line = .ok (some (.tick elapsed)) →
        elapsed.isFinite = true ∧ 0 ≤ elapsed := by
  refine ⟨Text.words line.toList, Text.hasWords_iff.mpr rfl, fun other hother => ?_,
    fun other word word' args hws hother hlower => ?_, ofWords_eq_none,
    fun command => ofWords_eq_some, ofWords_eq_error, fun direction hpress => ?_,
    fun elapsed htick => ?_⟩
  · rw [parse, parse, hother.words_eq]
  · rw [parse, parse, hws, hother.words_eq]
    exact ofWords_recased hlower
  · obtain ⟨name, _, hws, -, word, rfl, hword⟩ := ofWords_eq_some.mp hpress
    exact ⟨name, word, hws, hword⟩
  · obtain ⟨_, _, -, -, _, -, -, hfinite⟩ := ofWords_eq_some.mp htick
    exact hfinite

/-- The same words between other blanks, the name in capitals, and a time that is read. -/
theorem parse_of_words_spelled :
    (Text.HasWords "\tPress  Left ".toList ["Press".toList, "Left".toList] ∧
      parse "\tPress  Left " = parse "Press Left") ∧
    (Text.HasWords "PRESS Left".toList ["PRESS".toList, "Left".toList] ∧
      Text.lower "PRESS".toList = Text.lower "Press".toList ∧
      (parse "PRESS Left" = parse "Press Left" ∨
        parse "Press Left" = .error (.unknown "Press") ∧
          parse "PRESS Left" = .error (.unknown "PRESS"))) ∧
    (parse "Press Left" = .ok (some (.press .left)) ∧
      ∃ name word, ["Press".toList, "Left".toList] = [name, word] ∧
        NamesKey word (.arrow .left)) ∧
    parse "tick 10" = .ok (some (.tick 10)) ∧ Float.isFinite 10 = true ∧ (0 : Float) ≤ 10 := by
  obtain ⟨ws, hws, hsame, hrecased, -, -, -, hpress, -⟩ := parse_of_words "Press Left"
  obtain ⟨_, -, -, -, -, -, -, -, htick⟩ := parse_of_words "tick 10"
  have hwords : ws = ["Press".toList, "Left".toList] := hws.words_eq.symm.trans (by decide)
  subst hwords
  have hblanks : Text.HasWords "\tPress  Left ".toList ["Press".toList, "Left".toList] :=
    Text.hasWords_iff.mpr (by decide)
  have hcapitals : Text.HasWords "PRESS Left".toList ["PRESS".toList, "Left".toList] :=
    Text.hasWords_iff.mpr (by decide)
  have hlower : Text.lower "PRESS".toList = Text.lower "Press".toList := by decide
  have hleft : parse "Press Left" = .ok (some (.press .left)) := rfl
  have hten : parse "tick 10" = .ok (some (.tick 10)) := rfl
  exact ⟨⟨hblanks, hsame _ hblanks⟩,
    ⟨hcapitals, hlower, (hrecased _ _ _ _ rfl hcapitals hlower).imp_right And.right⟩,
    ⟨hleft, hpress _ hleft⟩, hten, htick _ hten⟩

-- A word that is no arrow is a key of its own, but cannot be pressed.
example : parse "up Shift" = .ok (some (.keyUp (.other "Shift"))) := rfl
example : parse "press Shift" =
    .error (.badArguments (.badDirection "Shift") "press <left|right|up|down>") := rfl

end Command

end TileAdventure
