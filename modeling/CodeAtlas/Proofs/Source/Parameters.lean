import Mathlib
import CodeAtlas.Proofs.Text.Pieces
import CodeAtlas.Source.Grammar.Expression
import CodeAtlas.Source.Signature
import CodeAtlas.Text.Identifier

/-!
# Parameters of a signature

A signature shows the parameters of a function as a list of parts: one for each parameter, with its annotation and its
default, a slash after the positional-only ones, and a star before the keyword-only ones unless a variadic parameter marks
them. The positional defaults come as one list for the positional-only and the regular parameters together, and belong to
the last of them.

The parts lose nothing of this. Reading them by the grammar of parameters gives the parameters back, with every annotation
and every default where it was. How an expression is read is not said here: all that is used is that the expressions of
the parameters are read back from their texts, at the end of a part and in front of a default.

## Main definitions

* `Params.bound`: the positional parameters with their own defaults
* `FunctionHeader.parts`: the parts of a signature
* `readParts`: the parameters that some parts write
* `Params.WellFormed`, `ReadsBack`: what is asked of the parameters, and of the reading of expressions

## Main results

* `Params.WellFormed.pieces_eq`: which default is shown with which parameter
* `Grammar.positionalParams_append`, `Grammar.keyParams_append`: what the grammar makes of a run of parameters
* `ParamItem.readPiece_text`: a part is read back
* `FunctionHeader.parameters_kept`: the parameters of a signature are read back from its parts
-/

namespace CodeAtlas.Source

variable {ε : Type}

/-! ## Which default belongs to which parameter -/

theorem filterMap_snd_eq {α β : Type} (bs : List (α × Option β)) :
    bs.filterMap Prod.snd = (bs.map Prod.snd).reduceOption := by
  rw [List.reduceOption, List.filterMap_map]
  rfl

namespace Params

/-- The positional parameters with their defaults, which belong to the last of them. -/
def bound (p : Params ε) : List (Param ε × Option ε) :=
  (p.posOnly ++ p.regular).zip
    (List.replicate (p.posOnly.length + p.regular.length - p.defaults.length) none ++ p.defaults.map some)

/-- All parameters. -/
def all (p : Params ε) : List (Param ε) :=
  p.posOnly ++ p.regular ++ p.variadic.toList ++ p.keyOnly ++ p.keyVariadic.toList

/-- Parameters as a definition can have them: there are no more positional defaults than positional parameters, each
keyword-only parameter has its place in the list of defaults, and all names are identifiers. -/
structure WellFormed (p : Params ε) : Prop where
  defaults_le : p.defaults.length ≤ p.posOnly.length + p.regular.length
  keyDefaults_eq : p.keyDefaults.length = p.keyOnly.length
  identifiers : ∀ q ∈ p.all, Text.isIdentifier q.name.toList

namespace WellFormed

variable {p : Params ε} (h : p.WellFormed)

include h

theorem length_defaults :
    (List.replicate (p.posOnly.length + p.regular.length - p.defaults.length) none ++ p.defaults.map some).length =
      (p.posOnly ++ p.regular).length := by
  have := h.defaults_le
  simp only [List.length_append, List.length_replicate, List.length_map]
  omega

theorem map_fst_bound : p.bound.map Prod.fst = p.posOnly ++ p.regular :=
  List.map_fst_zip h.length_defaults.ge

theorem map_snd_bound : p.bound.map Prod.snd =
    List.replicate (p.posOnly.length + p.regular.length - p.defaults.length) none ++ p.defaults.map some :=
  List.map_snd_zip h.length_defaults.le

/-- Each positional default belongs to one parameter, in order. -/
theorem filterMap_snd_bound : p.bound.filterMap Prod.snd = p.defaults := by
  rw [filterMap_snd_eq, h.map_snd_bound]
  simp [List.reduceOption, List.filterMap_append, List.filterMap_map]

theorem filterMap_snd_take_drop (k : Nat) :
    (p.bound.take k).filterMap Prod.snd ++ (p.bound.drop k).filterMap Prod.snd = p.defaults := by
  rw [← List.filterMap_append, List.take_append_drop, h.filterMap_snd_bound]

/-- After a parameter with a default, all have one. -/
theorem pairwise_bound : p.bound.Pairwise fun a b => a.2.isSome → b.2.isSome := by
  have hsnd : (p.bound.map Prod.snd).Pairwise fun a b => a.isSome → b.isSome := by
    rw [h.map_snd_bound, List.pairwise_append]
    refine ⟨List.pairwise_replicate.mpr (Or.inr (by simp)), ?_, ?_⟩
    · exact List.pairwise_map.mpr (List.pairwise_of_forall fun _ _ _ => rfl)
    · intro a ha b _ hsome
      rw [List.eq_of_mem_replicate ha] at hsome
      cases hsome
  exact List.pairwise_map.mp hsnd

/-- The default that is shown with a positional parameter is the one that belongs to it. -/
theorem mapIdx_positionalDefault :
    ((p.posOnly ++ p.regular).mapIdx fun i q => (q, p.positionalDefault i)) = p.bound := by
  have hle := h.defaults_le
  refine List.ext_getElem ?_ fun i hi hi' => ?_
  · rw [List.length_mapIdx, bound, List.length_zip, h.length_defaults, min_self]
  · rw [List.length_mapIdx, List.length_append] at hi
    simp only [List.getElem_mapIdx, bound, List.getElem_zip, Prod.mk.injEq, true_and, positionalDefault]
    by_cases hbare : i < p.posOnly.length + p.regular.length - p.defaults.length
    · rw [List.getElem_append_left (by simpa using hbare), List.getElem_replicate, if_neg (by omega)]
    · rw [List.getElem_append_right (by simpa using hbare), if_pos (by omega)]
      have hoffset : ((i : Int) - ((p.posOnly.length + p.regular.length : Nat) - (p.defaults.length : Nat))).toNat =
          i - (p.posOnly.length + p.regular.length - p.defaults.length) := by omega
      simp only [hoffset, List.length_replicate, List.getElem_map]
      exact List.getElem?_eq_getElem (by omega)

theorem mapIdx_keyDefault : (p.keyOnly.mapIdx fun i q => (q, p.keyDefault i)) = p.keyOnly.zip p.keyDefaults := by
  have hlength := h.keyDefaults_eq
  refine List.ext_getElem (by simp [hlength]) fun i hi hi' => ?_
  rw [List.length_mapIdx] at hi
  simp only [List.getElem_mapIdx, List.getElem_zip, Prod.mk.injEq, true_and, keyDefault]
  rw [List.getElem?_eq_getElem (by omega)]
  rfl

end WellFormed

end Params

/-! ## The pieces of a signature -/

/-- The default that a piece shows. -/
def ParamItem.default? : ParamItem ε → Option ε
  | .plain _ d => d
  | _ => none

/-- The pieces for parameters with their defaults. -/
def plainItems (bs : List (Param ε × Option ε)) : List (ParamItem ε) :=
  bs.map fun b => .plain b.1 b.2

theorem plainItems_mapIdx (qs : List (Param ε)) (default : Nat → Option ε) :
    plainItems (qs.mapIdx fun i q => (q, default i)) = qs.mapIdx fun i q => .plain q (default i) := by
  simp [plainItems, List.mapIdx_eq_zipIdx_map, Function.comp_def]

theorem filterMap_plainItems (bs : List (Param ε × Option ε)) :
    (plainItems bs).filterMap ParamItem.default? = bs.filterMap Prod.snd := by
  rw [plainItems, List.filterMap_map]
  rfl

namespace Params

/-- The mark after the positional-only parameters. -/
def slashItems (p : Params ε) : List (ParamItem ε) :=
  if p.posOnly.isEmpty then [] else [.slash]

/-- The mark before the keyword-only parameters, or the variadic parameter in its place. -/
def starItems (p : Params ε) : List (ParamItem ε) :=
  match p.variadic with
  | some q => [.variadic q]
  | none => if p.keyOnly.isEmpty then [] else [.star]

/-- The variadic keyword parameter. -/
def keyVariadicItems (p : Params ε) : List (ParamItem ε) :=
  match p.keyVariadic with
  | some q => [.keyVariadic q]
  | none => []

/-- The pieces in their order, each parameter with the default that belongs to it. -/
def layout (p : Params ε) : List (ParamItem ε) :=
  plainItems (p.bound.take p.posOnly.length) ++ p.slashItems ++ plainItems (p.bound.drop p.posOnly.length) ++
    p.starItems ++ plainItems (p.keyOnly.zip p.keyDefaults) ++ p.keyVariadicItems

/-- **Each parameter is shown with the default that belongs to it.** -/
theorem WellFormed.pieces_eq {p : Params ε} (h : p.WellFormed) : p.pieces = p.layout := by
  have hpos : p.posOnly.mapIdx (fun i q => ParamItem.plain q (p.positionalDefault i)) =
      plainItems (p.bound.take p.posOnly.length) := by
    rw [← h.mapIdx_positionalDefault, List.mapIdx_append, List.take_left' (by simp), plainItems_mapIdx]
  have hregular : p.regular.mapIdx (fun i q => ParamItem.plain q (p.positionalDefault (p.posOnly.length + i))) =
      plainItems (p.bound.drop p.posOnly.length) := by
    rw [← h.mapIdx_positionalDefault, List.mapIdx_append, List.drop_left' (by simp),
      plainItems_mapIdx _ fun i => p.positionalDefault (i + p.posOnly.length)]
    simp only [Nat.add_comm]
  have hkey : p.keyOnly.mapIdx (fun i q => ParamItem.plain q (p.keyDefault i)) =
      plainItems (p.keyOnly.zip p.keyDefaults) := by
    rw [← h.mapIdx_keyDefault, plainItems_mapIdx]
  rw [pieces, hpos, hregular, hkey]
  rfl

/-- All defaults, the positional ones first. -/
def defaultValues (p : Params ε) : List ε :=
  p.defaults ++ p.keyDefaults.reduceOption

/-- **Every default is shown once.** -/
theorem WellFormed.filterMap_layout {p : Params ε} (h : p.WellFormed) :
    p.layout.filterMap ParamItem.default? = p.defaultValues := by
  have hslash : p.slashItems.filterMap ParamItem.default? = [] := by
    rw [slashItems]
    split <;> rfl
  have hstar : p.starItems.filterMap ParamItem.default? = [] := by
    rw [starItems]
    split
    · rfl
    · split <;> rfl
  have hkeyVariadic : p.keyVariadicItems.filterMap ParamItem.default? = [] := by
    rw [keyVariadicItems]
    split <;> rfl
  have hkeyOnly : (p.keyOnly.zip p.keyDefaults).filterMap Prod.snd = p.keyDefaults.reduceOption := by
    rw [filterMap_snd_eq, List.map_snd_zip h.keyDefaults_eq.le]
  simp only [layout, List.filterMap_append, filterMap_plainItems, hslash, hstar, hkeyVariadic, hkeyOnly, List.append_nil]
  rw [h.filterMap_snd_take_drop, defaultValues]

end Params

/-! ## The grammar of parameters -/

/-- A piece of a signature as a piece of source text. -/
def ParamItem.piece : ParamItem Expr → Grammar.ParamPiece
  | .plain q d => .plain q d
  | .slash => .slash
  | .star => .star
  | .variadic q => .variadic q
  | .keyVariadic q => .keyVariadic q

/-- The pieces of source text for parameters with their defaults. -/
def plainPieces (bs : List (Param Expr × Option Expr)) : List Grammar.ParamPiece :=
  bs.map fun b => .plain b.1 b.2

theorem map_piece_plainItems (bs : List (Param Expr × Option Expr)) :
    (plainItems bs).map ParamItem.piece = plainPieces bs := by
  rw [plainItems, List.map_map]
  rfl

namespace Grammar

/-- **A run of positional parameters.** They are appended to those before them, with their defaults, if no parameter without
a default comes after one with a default. -/
theorem positionalParams_append {p : Params Expr} {slashed : Bool} {bs : List (Param Expr × Option Expr)}
    {rest : List ParamPiece} (hbs : bs.Pairwise fun a b => a.2.isSome → b.2.isSome)
    (hp : p.defaults ≠ [] → ∀ b ∈ bs, b.2.isSome) :
    positionalParams p slashed (plainPieces bs ++ rest) =
      positionalParams
        { p with regular := p.regular ++ bs.map Prod.fst, defaults := p.defaults ++ bs.filterMap Prod.snd }
        slashed rest := by
  -- the parameters read so far grow with each piece; once one has a default, all that follow have one
  induction bs generalizing p with
  | nil => simp [plainPieces]
  | cons b bs ih =>
    obtain ⟨hb, htail⟩ := List.pairwise_cons.mp hbs
    obtain ⟨q, d⟩ := b
    cases d with
    | none =>
      have hnone : p.defaults = [] := by
        by_contra hne
        exact Bool.false_ne_true (hp hne _ List.mem_cons_self)
      have hstep := ih (p := { p with regular := p.regular ++ [q] }) htail fun hne => absurd hnone hne
      simpa [plainPieces, positionalParams, hnone] using hstep
    | some value =>
      have hstep := ih (p := { p with regular := p.regular ++ [q], defaults := p.defaults ++ [value] }) htail
        fun _ b hmem => hb b hmem rfl
      simpa [plainPieces, positionalParams] using hstep

/-- **A run of keyword-only parameters** is appended to those before them, with the default of each. -/
theorem keyParams_append (p : Params Expr) (bs : List (Param Expr × Option Expr)) (rest : List ParamPiece) :
    positionalParams.keyParams p (plainPieces bs ++ rest) =
      positionalParams.keyParams
        { p with keyOnly := p.keyOnly ++ bs.map Prod.fst, keyDefaults := p.keyDefaults ++ bs.map Prod.snd } rest := by
  induction bs generalizing p with
  | nil => simp [plainPieces]
  | cons b bs ih =>
    have hstep := ih { p with keyOnly := p.keyOnly ++ [b.1], keyDefaults := p.keyDefaults ++ [b.2] }
    simpa [plainPieces, positionalParams.keyParams] using hstep

/-- The slash makes the parameters before it positional-only. Without such parameters none is written. -/
theorem positionalParams_slash (p : Params Expr) (defaults : List Expr) (rest : List ParamPiece) :
    positionalParams ⟨[], p.posOnly, defaults, Option.none, [], [], Option.none⟩ false
        (p.slashItems.map ParamItem.piece ++ rest) =
      positionalParams ⟨p.posOnly, [], defaults, Option.none, [], [], Option.none⟩ (!p.posOnly.isEmpty) rest := by
  rw [Params.slashItems]
  cases p.posOnly with
  | nil => rfl
  | cons q qs => rfl

variable {p : Params Expr} (hp : p.WellFormed)

include hp

/-- What follows the star or the variadic parameter. -/
theorem keyParams_tail (posOnly regular : List (Param Expr)) (defaults : List Expr) (variadic : Option (Param Expr)) :
    positionalParams.keyParams ⟨posOnly, regular, defaults, variadic, [], [], Option.none⟩
        (plainPieces (p.keyOnly.zip p.keyDefaults) ++ p.keyVariadicItems.map ParamItem.piece) =
      some ⟨posOnly, regular, defaults, variadic, p.keyOnly, p.keyDefaults, p.keyVariadic⟩ := by
  rw [keyParams_append, List.map_fst_zip hp.keyDefaults_eq.ge, List.map_snd_zip hp.keyDefaults_eq.le,
    Params.keyVariadicItems]
  cases p.keyVariadic with
  | none => rfl
  | some q => rfl

/-- What follows the positional parameters. -/
theorem positionalParams_tail (posOnly regular : List (Param Expr)) (defaults : List Expr) (slashed : Bool) :
    positionalParams ⟨posOnly, regular, defaults, Option.none, [], [], Option.none⟩ slashed
        (p.starItems.map ParamItem.piece ++
          (plainPieces (p.keyOnly.zip p.keyDefaults) ++ p.keyVariadicItems.map ParamItem.piece)) =
      some ⟨posOnly, regular, defaults, p.variadic, p.keyOnly, p.keyDefaults, p.keyVariadic⟩ := by
  have htail := keyParams_tail hp posOnly regular defaults p.variadic
  rw [Params.starItems]
  cases hv : p.variadic with
  | some q =>
    rw [hv] at htail
    exact htail
  | none =>
    rw [hv] at htail
    have hlength := hp.keyDefaults_eq
    -- a star is only written in front of a keyword-only parameter, as the grammar asks for
    rcases hk : p.keyOnly with - | ⟨k, ks⟩ <;> rcases hd : p.keyDefaults with - | ⟨d, ds⟩ <;>
      simp only [hk, hd, List.length_nil, List.length_cons, Nat.succ_ne_zero, reduceCtorEq] at hlength
    · rw [Params.keyVariadicItems]
      cases p.keyVariadic with
      | none => rfl
      | some q => rfl
    · rw [hk, hd] at htail
      exact htail

/-- **The pieces of a signature are read back** by the grammar of parameters. -/
theorem positionalParams_pieces : positionalParams noParams false (p.pieces.map ParamItem.piece) = some p := by
  have hpairwise : (p.bound.take p.posOnly.length ++ p.bound.drop p.posOnly.length).Pairwise
      fun a b => a.2.isSome → b.2.isSome := by
    rw [List.take_append_drop]
    exact hp.pairwise_bound
  obtain ⟨hfirst, hsecond, hacross⟩ := List.pairwise_append.mp hpairwise
  have hposOnly : (p.bound.take p.posOnly.length).map Prod.fst = p.posOnly := by
    rw [List.map_take, hp.map_fst_bound, List.take_left' rfl]
  have hregular : (p.bound.drop p.posOnly.length).map Prod.fst = p.regular := by
    rw [List.map_drop, hp.map_fst_bound, List.drop_left' rfl]
  simp only [hp.pieces_eq, Params.layout, List.map_append, map_piece_plainItems, List.append_assoc]
  rw [positionalParams_append hfirst (fun h => absurd rfl h)]
  simp only [noParams, hposOnly, List.nil_append]
  rw [positionalParams_slash, positionalParams_append hsecond ?hdefault]
  · simp only [hregular, hp.filterMap_snd_take_drop, List.nil_append]
    exact positionalParams_tail hp p.posOnly p.regular p.defaults _
  case hdefault =>
    -- a default before the slash is followed by defaults after it
    intro hne b hb
    obtain ⟨d, hd⟩ := List.exists_mem_of_ne_nil _ hne
    obtain ⟨a, ha, had⟩ := List.mem_filterMap.mp hd
    exact hacross a ha b hb (by rw [had]; rfl)

end Grammar

/-! ## The text of a part -/

section Reading

variable (read : List Char → Option (Expr × List Char))

/-- The name at the start of some characters, and what follows it. -/
def readName : List Char → Option (String × List Char)
  | [] => none
  | c :: cs =>
    if Text.isIdentifierStart c then
      some (String.ofList (c :: cs.takeWhile Text.isIdentifierContinue), cs.dropWhile Text.isIdentifierContinue)
    else none

/-- The parameter at the start of some characters, with its annotation after a colon, and what follows. -/
def readParam (cs : List Char) : Option (Param Expr × List Char) := do
  let (name, rest) ← readName cs
  match rest with
  | ':' :: rest =>
    let (ascription, rest) ← read rest
    return (⟨name, some ascription⟩, rest)
  | rest => return (⟨name, none⟩, rest)

/-- A parameter that is not variadic, with its default after an equals sign. -/
def readPlain (cs : List Char) : Option Grammar.ParamPiece := do
  let (q, rest) ← readParam read cs
  match rest with
  | [] => return .plain q none
  | '=' :: rest =>
    let (value, rest) ← read rest
    guard rest.isEmpty
    return .plain q (some value)
  | _ => none

/-- What follows a star: nothing, or a variadic parameter, or a second star and the variadic keyword parameter. -/
def readStarred : List Char → Option Grammar.ParamPiece
  | [] => some .star
  | '*' :: cs => do
    let (q, rest) ← readParam read cs
    guard rest.isEmpty
    return .keyVariadic q
  | cs => do
    let (q, rest) ← readParam read cs
    guard rest.isEmpty
    return .variadic q

/-- One part of a signature. -/
def readPiece : List Char → Option Grammar.ParamPiece
  | ['/'] => some .slash
  | '*' :: cs => readStarred read cs
  | cs => readPlain read cs

/-- **The parameters that some parts write**, by the grammar of parameters. -/
def readParts (parts : List String) : Option (Params Expr) := do
  let pieces ← parts.mapM fun part => readPiece read part.toList
  Grammar.positionalParams Grammar.noParams false pieces

end Reading

/-- The annotations of all parameters. -/
def Params.annotations (p : Params ε) : List ε :=
  p.all.filterMap Param.ascription

/-- The expressions of the parameters are read back from their texts. An expression ends at the end of a part, or in front
of the equals sign of a default; a blank may stand before it. -/
structure ReadsBack (read : List Char → Option (Expr × List Char)) (p : Params Expr) : Prop where
  value : ∀ d ∈ p.defaultValues, read d.text.toList = some (d, [])
  ascription : ∀ a ∈ p.annotations, read (' ' :: a.text.toList) = some (a, [])
  ascription_default : ∀ a ∈ p.annotations, ∀ d ∈ p.defaultValues,
    read (' ' :: (a.text.toList ++ '=' :: d.text.toList)) = some (a, '=' :: d.text.toList)

theorem readName_append {name : String} (hname : Text.isIdentifier name.toList) {rest : List Char}
    (hrest : ∀ c ∈ rest.head?, Text.isIdentifierContinue c = false) :
    readName (name.toList ++ rest) = some (name, rest) := by
  cases hchars : name.toList with
  | nil => simp [hchars, Text.isIdentifier] at hname
  | cons c cs =>
    rw [hchars, Text.isIdentifier, Bool.and_eq_true, List.all_eq_true] at hname
    obtain ⟨hstart, hcontinue⟩ := hname
    rw [List.cons_append, readName, if_pos hstart, Text.takeWhile_run_append hcontinue hrest,
      Text.dropWhile_run_append hcontinue hrest, ← hchars, String.ofList_toList]

/-- A parameter is read back, at the end of its part or in front of its default. -/
theorem readParam_text {read : List Char → Option (Expr × List Char)} {q : Param Expr}
    (hname : Text.isIdentifier q.name.toList) {rest : List Char} (hrest : ∀ c ∈ rest.head?, c = '=')
    (hread : ∀ a ∈ q.ascription, read (' ' :: (a.text.toList ++ rest)) = some (a, rest)) :
    readParam read ((q.text Expr.text).toList ++ rest) = some (q, rest) := by
  obtain ⟨name, ascription⟩ := q
  cases ascription with
  | none =>
    have hstop : ∀ c ∈ rest.head?, Text.isIdentifierContinue c = false := fun c hc => by rw [hrest c hc]; decide
    rw [readParam, Param.text, readName_append hname hstop]
    cases rest with
    | nil => rfl
    | cons c cs =>
      obtain rfl := hrest c rfl
      rfl
  | some a =>
    have htext : (Param.text Expr.text ⟨name, some a⟩).toList ++ rest =
        name.toList ++ ':' :: ' ' :: (a.text.toList ++ rest) := by
      simp [Param.text]
    rw [readParam, htext, readName_append hname (by simp; decide)]
    simp [hread a rfl]

/-- A parameter is written with its name first. -/
theorem Param.exists_text_eq_cons {q : Param ε} (hname : Text.isIdentifier q.name.toList) (render : ε → String) :
    ∃ c cs, (q.text render).toList = c :: cs ∧ Text.isIdentifierStart c := by
  obtain ⟨more, hmore⟩ : ∃ more, (q.text render).toList = q.name.toList ++ more := by
    rw [Param.text]
    split
    · exact ⟨_, by rw [String.toList_append, String.toList_append, List.append_assoc]⟩
    · exact ⟨[], (List.append_nil _).symm⟩
  cases hchars : q.name.toList with
  | nil => simp [hchars, Text.isIdentifier] at hname
  | cons c cs =>
    rw [hchars, Text.isIdentifier, Bool.and_eq_true] at hname
    exact ⟨c, cs ++ more, by rw [hmore, hchars, List.cons_append], hname.1⟩

theorem ne_of_isIdentifierStart {c : Char} (hc : Text.isIdentifierStart c) : c ≠ '/' ∧ c ≠ '*' := by
  constructor <;> rintro rfl <;> exact absurd hc (by decide)

/-- What starts like a name is a parameter without a star. -/
theorem readPiece_cons (read : List Char → Option (Expr × List Char)) {c : Char} (hc : Text.isIdentifierStart c)
    (cs : List Char) : readPiece read (c :: cs) = readPlain read (c :: cs) := by
  obtain ⟨hslash, hstar⟩ := ne_of_isIdentifierStart hc
  unfold readPiece
  split
  · next h => exact absurd (List.cons.inj h).1 hslash
  · next h => exact absurd (List.cons.inj h).1 hstar
  · rfl

/-- What starts like a name after a star is a variadic parameter. -/
theorem readStarred_cons {read : List Char → Option (Expr × List Char)} {c : Char} (hc : Text.isIdentifierStart c)
    {cs : List Char} {q : Param Expr} (hq : readParam read (c :: cs) = some (q, [])) :
    readStarred read (c :: cs) = some (.variadic q) := by
  obtain ⟨-, hstar⟩ := ne_of_isIdentifierStart hc
  unfold readStarred
  split
  · next h => cases h
  · next h => exact absurd (List.cons.inj h).1 hstar
  · rw [hq]
    rfl

/-- A piece shows only what the parameters have. -/
inductive ParamItem.Within (p : Params ε) : ParamItem ε → Prop
  | plain {q : Param ε} {default : Option ε} (hq : q ∈ p.all) (hd : ∀ d ∈ default, d ∈ p.defaultValues) :
      Within p (.plain q default)
  | slash : Within p .slash
  | star : Within p .star
  | variadic {q : Param ε} (hq : q ∈ p.all) : Within p (.variadic q)
  | keyVariadic {q : Param ε} (hq : q ∈ p.all) : Within p (.keyVariadic q)

namespace Params

variable {p : Params ε}

theorem within_of_mem_slashItems : ∀ item ∈ p.slashItems, item.Within p := by
  intro item hitem
  rw [slashItems] at hitem
  split at hitem
  · cases hitem
  · rw [List.mem_singleton.mp hitem]
    exact .slash

theorem within_of_mem_starItems : ∀ item ∈ p.starItems, item.Within p := by
  intro item hitem
  rw [starItems] at hitem
  split at hitem
  · next q hq =>
    rw [List.mem_singleton.mp hitem]
    exact .variadic (by simp [all, hq])
  · split at hitem
    · cases hitem
    · rw [List.mem_singleton.mp hitem]
      exact .star

theorem within_of_mem_keyVariadicItems : ∀ item ∈ p.keyVariadicItems, item.Within p := by
  intro item hitem
  rw [keyVariadicItems] at hitem
  split at hitem
  · next q hq =>
    rw [List.mem_singleton.mp hitem]
    exact .keyVariadic (by simp [all, hq])
  · cases hitem

variable (h : p.WellFormed)

include h

theorem WellFormed.within_of_mem_bound : ∀ b ∈ p.bound, (ParamItem.plain b.1 b.2).Within p := by
  intro b hb
  have hq : b.1 ∈ p.posOnly ++ p.regular := h.map_fst_bound ▸ List.mem_map_of_mem hb
  refine .plain ?_ fun d hd => List.mem_append_left _ ?_
  · simp only [all, List.mem_append] at hq ⊢
    tauto
  · exact h.filterMap_snd_bound ▸ List.mem_filterMap.mpr ⟨b, hb, hd⟩

theorem WellFormed.within_of_mem_pieces : ∀ item ∈ p.pieces, item.Within p := by
  intro item hitem
  simp only [h.pieces_eq, layout, List.mem_append, plainItems, List.mem_map] at hitem
  rcases hitem with ((((⟨b, hb, rfl⟩ | hitem) | ⟨b, hb, rfl⟩) | hitem) | ⟨b, hb, rfl⟩) | hitem
  · exact h.within_of_mem_bound b (List.mem_of_mem_take hb)
  · exact within_of_mem_slashItems item hitem
  · exact h.within_of_mem_bound b (List.mem_of_mem_drop hb)
  · exact within_of_mem_starItems item hitem
  · obtain ⟨hq, hvalue⟩ := List.of_mem_zip hb
    refine .plain ?_ fun d hd => List.mem_append_right _ (List.mem_filterMap.mpr ⟨b.2, hvalue, hd⟩)
    simp only [all, List.mem_append]
    tauto
  · exact within_of_mem_keyVariadicItems item hitem

end Params

section Text

variable {read : List Char → Option (Expr × List Char)} {p : Params Expr} (hp : p.WellFormed) (hread : ReadsBack read p)

include hp hread

theorem readParam_text_end {q : Param Expr} (hq : q ∈ p.all) :
    readParam read (q.text Expr.text).toList = some (q, []) := by
  have hend : readParam read ((q.text Expr.text).toList ++ []) = some (q, []) := by
    refine readParam_text (hp.identifiers q hq) (by simp) fun a ha => ?_
    rw [List.append_nil]
    exact hread.ascription a (List.mem_filterMap.mpr ⟨q, hq, ha⟩)
  rwa [List.append_nil] at hend

theorem readPlain_text {q : Param Expr} {default : Option Expr} (hq : q ∈ p.all)
    (hd : ∀ d ∈ default, d ∈ p.defaultValues) :
    readPlain read ((ParamItem.plain q default).text Expr.text).toList = some (.plain q default) := by
  cases default with
  | none =>
    rw [ParamItem.text, readPlain, readParam_text_end hp hread hq]
    rfl
  | some d =>
    have hmem := hd d rfl
    have htext : ((ParamItem.plain q (some d)).text Expr.text).toList =
        (q.text Expr.text).toList ++ '=' :: d.text.toList := by
      simp [ParamItem.text]
    have hparam : readParam read ((q.text Expr.text).toList ++ '=' :: d.text.toList) = some (q, '=' :: d.text.toList) :=
      readParam_text (hp.identifiers q hq) (by simp) fun a ha =>
        hread.ascription_default a (List.mem_filterMap.mpr ⟨q, hq, ha⟩) d hmem
    rw [htext, readPlain, hparam]
    simp [hread.value d hmem]

/-- **A part is read back.** -/
theorem ParamItem.readPiece_text {item : ParamItem Expr} (hitem : item.Within p) :
    readPiece read (item.text Expr.text).toList = some item.piece := by
  cases hitem with
  | @plain q default hq hd =>
    obtain ⟨c, cs, htext, hc⟩ : ∃ c cs, ((ParamItem.plain q default).text Expr.text).toList = c :: cs ∧
        Text.isIdentifierStart c := by
      obtain ⟨c, cs, htext, hc⟩ := Param.exists_text_eq_cons (hp.identifiers q hq) Expr.text
      cases default with
      | none => exact ⟨c, cs, htext, hc⟩
      | some d => exact ⟨c, _, by rw [ParamItem.text, String.toList_append, String.toList_append, htext]; rfl, hc⟩
    rw [htext, readPiece_cons read hc, ← htext]
    exact readPlain_text hp hread hq hd
  | slash => rfl
  | star => rfl
  | @variadic q hq =>
    have hparam := readParam_text_end hp hread hq
    obtain ⟨c, cs, htext, hc⟩ := Param.exists_text_eq_cons (hp.identifiers q hq) Expr.text
    have hstar : ((ParamItem.variadic q).text Expr.text).toList = '*' :: c :: cs := by
      simp [ParamItem.text, htext]
    rw [htext] at hparam
    rw [hstar]
    exact readStarred_cons hc hparam
  | @keyVariadic q hq =>
    have hstars : ((ParamItem.keyVariadic q).text Expr.text).toList = '*' :: '*' :: (q.text Expr.text).toList := by
      simp [ParamItem.text]
    rw [hstars, readPiece, readStarred, readParam_text_end hp hread hq]
    rfl

end Text

/-! ## Signatures -/

namespace FunctionHeader

/-- The parts between the brackets of a signature. -/
def parts (h : FunctionHeader) : List String :=
  h.params.pieces.map fun item => item.text Expr.text

/-- All pieces of the parts are read back, in order. -/
theorem mapM_readPiece_parts {h : FunctionHeader} {read : List Char → Option (Expr × List Char)}
    (hp : h.params.WellFormed) (hread : ReadsBack read h.params) :
    h.parts.mapM (fun part => readPiece read part.toList) = some (h.params.pieces.map ParamItem.piece) := by
  have hitems := hp.within_of_mem_pieces
  rw [parts]
  generalize h.params.pieces = items at hitems
  induction items with
  | nil => rfl
  | cons item items ih =>
    obtain ⟨hitem, hitems⟩ := List.forall_mem_cons.mp hitems
    simp [List.mapM_cons, ParamItem.readPiece_text hp hread hitem, ih hitems]

/-- **A signature keeps the parameters.** A function has well-formed parameters, and the expressions in them are read back
from their texts. Its signature shows a list of parts. In them each positional parameter stands with the default that
belongs to it, where the defaults belong to the last positional parameters, and each keyword-only parameter with its own;
every default is used once. Reading the parts by the grammar of parameters gives the parameters back: the
positional-only, the regular, the variadic, the keyword-only and the variadic keyword ones, with their annotations and
their defaults. -/
theorem parameters_kept (h : FunctionHeader) (read : List Char → Option (Expr × List Char))
    (hp : h.params.WellFormed) (hread : ReadsBack read h.params) :
    h.signature = (if h.isAsync then "async def " else "def ") ++ h.name ++ "(" ++ Text.joinWith ", " h.parts ++ ")" ++
        (h.result.map fun e => " -> " ++ e.text).getD "" ∧
      h.parts = h.params.layout.map (fun item => item.text Expr.text) ∧
      h.params.layout.filterMap ParamItem.default? = h.params.defaults ++ h.params.keyDefaults.reduceOption ∧
      readParts read h.parts = some h.params := by
  refine ⟨?_, by rw [parts, hp.pieces_eq], hp.filterMap_layout, ?_⟩
  · rw [signature]
    cases h.result <;> rfl
  · rw [readParts, mapM_readPiece_parts hp hread]
    exact Grammar.positionalParams_pieces hp

end FunctionHeader

end CodeAtlas.Source

namespace CodeAtlas

namespace Sample

open Source

/-- A name or a whole number, after blanks. -/
def readAtom (cs : List Char) : Option (Expr × List Char) :=
  let start := cs.dropWhile (· == ' ')
  let digits := start.takeWhile Char.isDigit
  if digits.isEmpty then (readName start).map fun r => (.name r.1, r.2)
  else some (.const (.whole (digitsValue 10 digits)), start.dropWhile Char.isDigit)

/-- The header `def f(a, b: int=1, /, c=2, *, d: str, e: int=3, **rest)`. -/
def mixedHeader : FunctionHeader where
  name := "f"
  isAsync := false
  params :=
    { posOnly := [⟨"a", none⟩, ⟨"b", some (.name "int")⟩]
      regular := [⟨"c", none⟩]
      defaults := [.const (.whole 1), .const (.whole 2)]
      variadic := none
      keyOnly := [⟨"d", some (.name "str")⟩, ⟨"e", some (.name "int")⟩]
      keyDefaults := [none, some (.const (.whole 3))]
      keyVariadic := some ⟨"rest", none⟩ }
  result := none
  decorators := []
  line := 1
  lastLine := 1

theorem wellFormed_mixedHeader : mixedHeader.params.WellFormed where
  defaults_le := by decide
  keyDefaults_eq := rfl
  identifiers := by decide

theorem mem_annotations_mixedHeader {a : Expr} (ha : a ∈ mixedHeader.params.annotations) :
    a = .name "int" ∨ a = .name "str" := by
  have hmem : a ∈ [Expr.name "int", .name "str", .name "int"] := ha
  simp only [List.mem_cons, List.not_mem_nil, or_false] at hmem
  tauto

theorem mem_values_mixedHeader {d : Expr} (hd : d ∈ mixedHeader.params.defaultValues) :
    d = .const (.whole 1) ∨ d = .const (.whole 2) ∨ d = .const (.whole 3) := by
  have hmem : d ∈ [Expr.const (.whole 1), .const (.whole 2), .const (.whole 3)] := hd
  simpa only [List.mem_cons, List.not_mem_nil, or_false] using hmem

theorem readsBack_mixedHeader : ReadsBack readAtom mixedHeader.params where
  value d hd := by
    rcases mem_values_mixedHeader hd with rfl | rfl | rfl <;> rfl
  ascription a ha := by
    rcases mem_annotations_mixedHeader ha with rfl | rfl <;> rfl
  ascription_default a ha d hd := by
    rcases mem_annotations_mixedHeader ha with rfl | rfl <;> rcases mem_values_mixedHeader hd with rfl | rfl | rfl <;> rfl

end Sample

/-- Positional defaults on both sides of the slash, and keyword-only parameters after a bare star. -/
theorem parameters_kept_mixed :
    Sample.mixedHeader.parts = ["a", "b: int=1", "/", "c=2", "*", "d: str", "e: int=3", "**rest"] ∧
      Source.readParts Sample.readAtom Sample.mixedHeader.parts = some Sample.mixedHeader.params := by
  obtain ⟨-, hparts, -, hread⟩ := Source.FunctionHeader.parameters_kept Sample.mixedHeader Sample.readAtom
    Sample.wellFormed_mixedHeader Sample.readsBack_mixedHeader
  exact ⟨hparts.trans (by decide +kernel), hread⟩

end CodeAtlas
