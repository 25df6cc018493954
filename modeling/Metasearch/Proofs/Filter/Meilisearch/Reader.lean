import Metasearch.Proofs.Filter.Meilisearch.Outline
import Metasearch.Proofs.Text.Separated

set_option autoImplicit false

/-! # A reader for filter texts

The reader goes over the symbols of a text once, from left to right, with the groups that are
open on a stack. A parenthesis at the beginning of a member opens a group; elsewhere it belongs
to a leaf. A space closes a member when the word before it is a connective with a space in
front. Everything else is put aside until the leaf is complete.

The invariant of a run is `Reads`: over the text of a member the reader comes back to the
stack it had and holds the outline of the member. A leaf has it if none of its words but the
first can be taken for a connective (`reads_leaf`), and a group has it if its members do
(`reads_group`). Nothing here depends on what the members say.
-/

namespace Metasearch.Filter.Meilisearch

open List (Forall₂)
open Condition (Occurs)
open Text

/-! ## Leaves -/

/-- What is left of a word without its beginning and its end. -/
def between? (opening closing : String) (symbols : List Symbol) : Option (List Symbol) :=
  (symbols.dropPrefix? (word opening)).bind fun rest => rest.dropSuffix? (word closing)

def readLiteral? : List Symbol → Option Literal
  | [.literal content] => some (.text (String.ofList content))
  | symbols => (readWord? symbols).map .bare

/-- Reads the values of a list between brackets. -/
def readList? (symbols : List Symbol) : Option (List Literal) := do
  let inner ← between? "[" "]" symbols
  if inner = [] then some [] else (cut .everywhere (word ", ") inner).mapM readLiteral?

/-- Reads the function of position with these words. -/
def readPlace? : List (List Symbol) → Option Outline
  | [first, second, third] => do
    let lat ← (between? "_geoRadius(" "," first).bind readWord?
    let lng ← (between? "" "," second).bind readWord?
    let distance ← (between? "" ")" third).bind readWord?
    return .near lat lng distance
  | [first, second, third, fourth] => do
    let north ← (between? "_geoBoundingBox([" "," first).bind readWord?
    let east ← (between? "" "]," second).bind readWord?
    let south ← (between? "[" "," third).bind readWord?
    let west ← (between? "" "])" fourth).bind readWord?
    return .within north east south west
  | _ => none

/-- Reads the comparison or membership with these words. -/
def readFielded? : List (List Symbol) → Option Outline
  | name :: sign :: others => do
    let field ← readWord? name
    match readComparison? sign, others with
    | some comparison, [value] =>
      let literal ← readLiteral? value
      return .comparison field comparison literal
    | some _, _ => none
    | none, others =>
      if sign = word "IN" then
        return .membership field .among (← readList? ([space].intercalate others))
      else
        match others with
        | second :: others =>
          if sign = word "NOT" ∧ second = word "IN" then
            return .membership field .notAmong (← readList? ([space].intercalate others))
          else none
        | [] => none
  | _ => none

/-- Reads a leaf. A function has a parenthesis in its first word, a field has none. -/
def readLeaf? (symbols : List Symbol) : Option Outline :=
  let words := symbols.splitOn space
  if .plain '(' ∈ words.headD [] then readPlace? words else readFielded? words

/-! ## The reader -/

/-- An open group: its members so far and the connectives between them, last first. -/
structure Frame where
  members : List Outline
  connectives : List Connective

/-- The outline of a group with a last member. Its connectives must agree. -/
def Frame.close (frame : Frame) (last : Outline) : Option Outline :=
  let members := (last :: frame.members).reverse
  match frame.connectives with
  | [] => some (.group none members)
  | first :: others =>
    if ∀ other ∈ others, other = first then some (.group (some first) members) else none

structure Reading where
  /-- The open groups, innermost first. -/
  frames : List Frame
  /-- The group just closed, if one was. -/
  closed : Option Outline
  /-- The symbols read since, last first. -/
  pending : List Symbol
  /-- How many parentheses of the leaf are open. -/
  depth : Nat

/-- At the beginning of a member. -/
def Reading.fresh (frames : List Frame) : Reading := ⟨frames, none, [], 0⟩

/-- The member that ends with the symbols `symbols`. -/
def finish (closed : Option Outline) (symbols : List Symbol) : Option Outline :=
  match closed with
  | some outline => if symbols = [] then some outline else none
  | none => readLeaf? symbols

/-- A connective at the end of what is pending, and the rest before it. -/
def splitConnective : List Symbol → Option (Connective × List Symbol)
  | .plain 'D' :: .plain 'N' :: .plain 'A' :: .plain ' ' :: rest => some (.conjunction, rest)
  | .plain 'R' :: .plain 'O' :: .plain ' ' :: rest => some (.disjunction, rest)
  | _ => none

namespace Reading

/-- Puts a symbol aside. -/
def push (r : Reading) (symbol : Symbol) : Reading := { r with pending := symbol :: r.pending }

def onOpen (r : Reading) : Reading :=
  if r.closed.isNone ∧ r.pending = [] then fresh (⟨[], []⟩ :: r.frames)
  else { r.push (.plain '(') with depth := r.depth + 1 }

def onClose (r : Reading) : Option Reading :=
  if 0 < r.depth then some { r.push (.plain ')') with depth := r.depth - 1 }
  else
    match r.frames with
    | [] => none
    | frame :: frames => do
      let member ← finish r.closed r.pending.reverse
      let group ← frame.close member
      return ⟨frames, some group, [], 0⟩

def onSpace (r : Reading) : Option Reading :=
  match splitConnective r.pending with
  | none => some (r.push space)
  | some (connective, rest) =>
    if 0 < r.depth then some (r.push space)
    else
      match r.frames with
      | [] => none
      | frame :: frames => do
        let member ← finish r.closed rest.reverse
        return fresh (⟨member :: frame.members, connective :: frame.connectives⟩ :: frames)

def step (r : Reading) (symbol : Symbol) : Option Reading :=
  if symbol = .plain '(' then some r.onOpen
  else if symbol = .plain ')' then r.onClose
  else if symbol = space then r.onSpace
  else some (r.push symbol)

/-- The outline read when the text ends. -/
def result (r : Reading) : Option Outline :=
  match r.frames with
  | [] => finish r.closed r.pending.reverse
  | _ :: _ => none

end Reading

/-- Reads a filter text. -/
def readFilter? (text : String) : Option Outline := do
  let symbols ← symbols? text.toList
  let reading ← symbols.foldlM Reading.step (Reading.fresh [])
  reading.result

/-! ## Running over a leaf -/

theorem splitConnective_reverse {text : List Symbol}
    (hfree : ∀ connective, Free (word (connectiveWord connective)) text) :
    splitConnective text.reverse = none := by
  -- behind the last space of a free text there is another word
  have hends : ∀ connective rest,
      text ≠ rest ++ space :: word (connectiveWord connective) := by
    rintro connective rest rfl
    have hfirst := (free_append_space.mp (hfree connective)).2.1
    cases connective <;> exact absurd hfirst (by decide)
  unfold splitConnective
  split
  · next rest heq =>
    refine absurd ((List.reverse_eq_iff.mp heq).trans ?_) (hends .conjunction rest.reverse)
    simp only [List.reverse_cons, List.append_assoc]
    rfl
  · next rest heq =>
    refine absurd ((List.reverse_eq_iff.mp heq).trans ?_) (hends .disjunction rest.reverse)
    simp only [List.reverse_cons, List.append_assoc]
    rfl
  · rfl

/-- Every parenthesis that is closed was open, and all are closed in the end. -/
def Closes : Nat → List Symbol → Prop
  | depth, [] => depth = 0
  | depth, symbol :: rest =>
    (symbol = .plain ')' → 0 < depth) ∧ Closes (depthAfter depth symbol) rest

theorem closes_append {depth : Nat} {text : List Symbol} (hopen : .plain '(' ∉ text)
    (hclose : .plain ')' ∉ text) (rest : List Symbol) :
    Closes depth (text ++ rest) ↔ Closes depth rest := by
  induction text with
  | nil => rfl
  | cons symbol text ih =>
    obtain ⟨hs, ht⟩ := not_or.mp (fun hor => hopen (List.mem_cons.mpr hor))
    obtain ⟨hs', ht'⟩ := not_or.mp (fun hor => hclose (List.mem_cons.mpr hor))
    have hstep : depthAfter depth symbol = depth := by
      rw [depthAfter, if_neg (Ne.symm hs), if_neg (Ne.symm hs')]
    rw [List.cons_append, Closes, hstep, ih ht ht']
    exact and_iff_right fun heq => absurd heq.symm hs'

/-- The text of a leaf, as the reader must find it to read over it. -/
structure LeafText (symbols : List Symbol) : Prop where
  starts : symbols.head? ≠ some (.plain '(')
  free : ∀ connective, Free (word (connectiveWord connective)) symbols
  closes : Closes 0 symbols

/-- The reader puts the symbols of a leaf aside one by one. -/
theorem run_leaf (frames : List Frame) {done todo : List Symbol} {depth : Nat}
    (hstarts : done = [] → todo.head? ≠ some (.plain '('))
    (hfree : ∀ connective, Free (word (connectiveWord connective)) (done ++ todo))
    (hcloses : Closes depth todo) :
    todo.foldlM Reading.step ⟨frames, none, done.reverse, depth⟩
      = some ⟨frames, none, (done ++ todo).reverse, 0⟩ := by
  induction todo generalizing done depth with
  | nil =>
    have hdepth : depth = 0 := hcloses
    rw [hdepth, List.append_nil]
    rfl
  | cons symbol todo ih =>
    have hstep : Reading.step ⟨frames, none, done.reverse, depth⟩ symbol
        = some ⟨frames, none, symbol :: done.reverse, depthAfter depth symbol⟩ := by
      unfold Reading.step
      split
      · next hopen =>
        -- only at the beginning of a member would this open a group
        have hdone : done ≠ [] := fun hnil => hstarts hnil (by rw [hopen]; rfl)
        simp [Reading.onOpen, Reading.push, hdone, hopen, depthAfter]
      · split
        · next hclose =>
          -- a leaf closes what it has opened, so this does not close the group
          have hpos := hcloses.1 hclose
          simp [Reading.onClose, Reading.push, hpos, hclose, depthAfter]
        · split
          · next hspace =>
            -- the word before this space is no connective
            subst hspace
            have hnone : splitConnective done.reverse = none :=
              splitConnective_reverse fun connective =>
                (free_append_space.mp (hfree connective)).1
            simp [Reading.onSpace, Reading.push, hnone, depthAfter, space]
          · next hopen hclose _ => simp [Reading.push, depthAfter, hopen, hclose]
    have hnext : (done ++ [symbol]) ++ todo = done ++ symbol :: todo := by simp
    have hrest := @ih (done ++ [symbol]) (depthAfter depth symbol) (by simp)
      (by rwa [hnext]) hcloses.2
    rw [List.foldlM_cons, hstep, Option.bind_eq_bind, Option.bind_some]
    rw [hnext, List.reverse_append] at hrest
    exact hrest

/-! ## Running over a tree -/

/-- **Over the symbols `symbols` the reader gets to the end of a member** that has the outline
`outline`, and the open groups are as they were. -/
def Reads (symbols : List Symbol) (outline : Outline) : Prop :=
  ∃ closed pending,
    (∀ frames, symbols.foldlM Reading.step (.fresh frames) = some ⟨frames, closed, pending, 0⟩)
      ∧ splitConnective pending = none
      ∧ finish closed pending.reverse = some outline

theorem reads_leaf {symbols : List Symbol} (htext : LeafText symbols) {outline : Outline}
    (h : readLeaf? symbols = some outline) : Reads symbols outline := by
  refine ⟨none, symbols.reverse, fun frames => ?_, splitConnective_reverse htext.free, ?_⟩
  · exact @run_leaf frames [] symbols 0 (fun _ => htext.starts) htext.free htext.closes
  · rw [List.reverse_reverse]
    exact h

/-- A connective behind a member closes it. -/
theorem run_connective {closed : Option Outline} {pending : List Symbol} {outline : Outline}
    (hnone : splitConnective pending = none)
    (hfinish : finish closed pending.reverse = some outline) (connective : Connective)
    (frame : Frame) (frames : List Frame) :
    (spaced (word (connectiveWord connective))).foldlM Reading.step
        ⟨frame :: frames, closed, pending, 0⟩
      = some (.fresh
          (⟨outline :: frame.members, connective :: frame.connectives⟩ :: frames)) := by
  have hspace : Reading.step ⟨frame :: frames, closed, pending, 0⟩ space
      = some ⟨frame :: frames, closed, space :: pending, 0⟩ := by
    simp [Reading.step, Reading.onSpace, hnone, Reading.push, space]
  rw [spaced, List.foldlM_cons, hspace, Option.bind_eq_bind, Option.bind_some]
  cases connective with
  | conjunction =>
    have hword : word (connectiveWord .conjunction) ++ [space]
        = [.plain 'A', .plain 'N', .plain 'D', space] := by decide
    rw [hword]
    simp [Reading.step, Reading.push, Reading.onSpace, splitConnective, space, hfinish]
  | disjunction =>
    have hword : word (connectiveWord .disjunction) ++ [space]
        = [.plain 'O', .plain 'R', space] := by decide
    rw [hword]
    simp [Reading.step, Reading.push, Reading.onSpace, splitConnective, space, hfinish]

theorem close_eq (connective : Connective) (members : List Outline) (last : Outline) :
    Frame.close ⟨members, List.replicate members.length connective⟩ last
      = some (.group (shownConnective connective (members.length + 1))
          (last :: members).reverse) := by
  cases members with
  | nil => rfl
  | cons member members => simp [Frame.close, List.replicate_succ, shownConnective]

/-- The members of a group are read one after the other, and then the group is closed. The
connectives read so far are as many as the members read so far. -/
theorem run_members {texts : List (List Symbol)} {outlines : List Outline}
    (h : Forall₂ Reads texts outlines) (hne : outlines ≠ []) (connective : Connective)
    (members : List Outline) (frames : List Frame) :
    ((spaced (word (connectiveWord connective))).intercalate texts ++ [Symbol.plain ')']).foldlM
        Reading.step
        (.fresh (⟨members, List.replicate members.length connective⟩ :: frames))
      = some ⟨frames,
          some (.group (shownConnective connective (members.length + outlines.length))
            (members.reverse ++ outlines)), [], 0⟩ := by
  induction h generalizing members with
  | nil => exact absurd rfl hne
  | @cons text outline texts outlines htext hrest ih =>
    obtain ⟨closed, pending, hrun, hnone, hfinish⟩ := htext
    cases hrest with
    | nil =>
      -- the last member: the parenthesis behind it closes the group
      rw [List.intercalate_singleton, List.foldlM_append, hrun, Option.bind_eq_bind,
        Option.bind_some]
      simp [Reading.step, Reading.onClose, hfinish, close_eq]
    | @cons next outline' texts outlines hnext hrest =>
      -- a connective follows, which puts the member aside
      have hothers := ih (by simp) (outline :: members)
      rw [List.intercalate_cons_cons, List.append_assoc, List.append_assoc, List.foldlM_append,
        hrun, Option.bind_eq_bind, Option.bind_some, List.foldlM_append,
        run_connective hnone hfinish, Option.bind_eq_bind, Option.bind_some]
      refine Eq.trans hothers ?_
      simp [Nat.add_comm, Nat.add_left_comm]

theorem reads_group {texts : List (List Symbol)} {outlines : List Outline}
    (h : Forall₂ Reads texts outlines) (hne : outlines ≠ []) (connective : Connective) :
    Reads (.plain '(' ::
        ((spaced (word (connectiveWord connective))).intercalate texts ++ [Symbol.plain ')']))
      (.group (shownConnective connective outlines.length) outlines) := by
  refine ⟨some _, [], fun frames => ?_, rfl, rfl⟩
  have hmembers := run_members h hne connective [] frames
  have hopen : Reading.step (.fresh frames) (.plain '(') = some (.fresh (⟨[], []⟩ :: frames)) :=
    rfl
  rw [List.foldlM_cons, hopen, Option.bind_eq_bind, Option.bind_some]
  refine Eq.trans hmembers ?_
  simp

end Metasearch.Filter.Meilisearch
