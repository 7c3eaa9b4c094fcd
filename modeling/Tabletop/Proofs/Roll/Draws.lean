import Mathlib.Data.List.Forall2
import Tabletop.Roll.Request

/-!
# Roll — draws

Which dice a roller draws, and where their faces are written down.  Whatever is asked of a roller
comes down to a row of single rolls (`RollRequest.asked`, `answer_eq_serveAll`), each of which draws
the dice of its formula one after the other (`Formula.thrown`, `throw_eq_draw`) and adds one entry
to the history.  So the faces in the history are the faces of the dice, in the order drawn
(`faces_serveAll`), unless a total overflows: its faces are lost.

`history_shows_script`: in a session with scripted dice the faces in the history are those of the
script, each used once, in order.
-/

namespace Tabletop

/-! ### Dice in a row -/

namespace Dice

variable {script : List Nat}

/-- One die after the other, of the given sides: their faces, and the dice after them. -/
def draw (dice : Dice) : List Nat → List Nat × Dice
  | [] => ([], dice)
  | sides :: rest =>
    let first := dice.die sides
    let others := first.2.draw rest
    (first.1 :: others.1, others.2)

theorem draw_append (dice : Dice) (sides sides' : List Nat) : dice.draw (sides ++ sides') =
    ((dice.draw sides).1 ++ ((dice.draw sides).2.draw sides').1,
      ((dice.draw sides).2.draw sides').2) := by
  induction sides generalizing dice with
  | nil => rfl
  | cons s rest ih => rw [List.cons_append, draw, ih]; rfl

@[simp] theorem length_draw (dice : Dice) (sides : List Nat) :
    (dice.draw sides).1.length = sides.length := by
  induction sides generalizing dice with
  | nil => rfl
  | cons s rest ih => rw [draw, List.length_cons, List.length_cons, ih]

theorem pool_eq_draw (dice : Dice) (sides count : Nat) :
    dice.pool sides count = dice.draw (List.replicate count sides) := by
  induction count generalizing dice with
  | zero => rfl
  | succ count ih => rw [pool, ih, List.replicate_succ, draw]

theorem d20_eq_draw (dice : Dice) {mode : Mode} (h : mode ≠ .normal) :
    ((dice.d20 mode).1.1, (dice.d20 mode).2) = dice.draw [20, 20] := by
  cases mode with
  | normal => exact absurd rfl h
  | advantage | disadvantage => rfl

/-- Every die takes the next face of the script. -/
theorem die_scripted (h : script ≠ []) (drawn sides : Nat) : ∃ face,
    script[drawn % script.length]? = some face ∧
      (scripted script drawn).die sides =
        (max 1 (min face (max sides 1)), .scripted script (drawn + 1)) := by
  have hplace : drawn % script.length < script.length :=
    Nat.mod_lt _ (List.length_pos_iff.mpr h)
  refine ⟨_, List.getElem?_eq_getElem hplace, ?_⟩
  rw [die, List.getElem?_eq_getElem hplace]

theorem getElem?_draw_scripted (h : script ≠ []) (drawn : Nat) {sides : List Nat} {k s : Nat}
    (hs : sides[k]? = some s) : ∃ face,
      script[(drawn + k) % script.length]? = some face ∧
        ((scripted script drawn).draw sides).1[k]? = some (max 1 (min face (max s 1))) := by
  induction sides generalizing drawn k with
  | nil => cases hs
  | cons first rest ih =>
      obtain ⟨face, hface, hdie⟩ := die_scripted h drawn first
      rw [draw, hdie]
      cases k with
      | zero =>
          obtain rfl := Option.some.inj hs
          exact ⟨face, hface, rfl⟩
      | succ k =>
          obtain ⟨next, hnext, hk⟩ := ih (drawn + 1) hs
          rw [show drawn + (k + 1) = drawn + 1 + k by omega]
          exact ⟨next, hnext, hk⟩

theorem dice_draw_scripted (h : script ≠ []) (drawn : Nat) (sides : List Nat) :
    ((scripted script drawn).draw sides).2 = .scripted script (drawn + sides.length) := by
  induction sides generalizing drawn with
  | nil => rfl
  | cons first rest ih =>
      obtain ⟨face, -, hdie⟩ := die_scripted h drawn first
      rw [draw, hdie, List.length_cons, Nat.add_comm rest.length, ← Nat.add_assoc]
      exact ih _

end Dice

/-! ### The dice of a formula -/

namespace Formula

/-- The sides of the dice that a formula throws, in the order thrown. -/
def thrown (f : Formula) : List Nat :=
  if f.isModifierOnly then []
  else if f.isSingleD20 && f.mode != .normal then [20, 20]
  else List.replicate f.count f.sides

theorem faces_divide (keep : Option KeepRule) (faces : List Nat) :
    (divide keep faces).faces = faces := by
  cases keep <;> rfl

theorem throw_eq_draw (f : Formula) (dice : Dice) :
    ((f.throw dice).1.faces, (f.throw dice).2) = dice.draw f.thrown := by
  unfold throw thrown
  split
  · rfl
  · split
    · rename_i hmode
      have hne : f.mode ≠ .normal := bne_iff_ne.mp ((Bool.and_eq_true _ _).mp hmode).2
      exact dice.d20_eq_draw hne
    · rw [← Dice.pool_eq_draw, faces_divide]

/-- A throw is recorded with its faces, or its total overflows. -/
theorem record_cases (f : Formula) (text : String) (label : Option String) (t : Throw) :
    f.record text label t = Roll.failed text label (overflowReason text) ∨
      (f.record text label t).expression = text ∧ (f.record text label t).label = label ∧
        (f.record text label t).error = none ∧ (f.record text label t).faces = t.faces := by
  unfold record
  split
  · exact .inl rfl
  · exact .inr ⟨rfl, rfl, rfl, rfl⟩

end Formula

/-! ### What is asked for -/

/-- A single roll that is asked for. -/
structure Asked where
  /-- The text under which it is recorded. -/
  expression : String
  /-- What it is for. -/
  label : Option String
  /-- Its formula, or what is wrong with the text. -/
  formula : Except FormulaError Formula

namespace Asked

/-- A formula is recorded under its canonical text. -/
def ofFormula (f : Formula) (label : Option String) : Asked := ⟨f.render, label, .ok f⟩

/-- A text that is a formula is recorded without the blanks around it, any other as it is. -/
def ofText (text : String) (label : Option String) : Asked :=
  match Formula.parse text with
  | .ok f => ⟨String.ofList (Text.trim text.toList), label, .ok f⟩
  | .error err => ⟨text, label, .error err⟩

/-- The sides of the dice that are thrown for it, in the order thrown. -/
def sides (a : Asked) : List Nat :=
  match a.formula with
  | .ok f => f.thrown
  | .error _ => []

/-- What is asked for, rolled. -/
def roll (a : Asked) (dice : Dice) : Roll × Dice :=
  match a.formula with
  | .ok f => f.rollWith a.expression a.label dice
  | .error err => (.failed a.expression a.label err.message, dice)

/-- A roll is the record of what was asked for. -/
inductive Records (a : Asked) : Roll → Prop
  /-- The dice of the formula were thrown, and their faces are on record. -/
  | thrown {f : Formula} {roll : Roll} (h : a.formula = .ok f)
      (hexpression : roll.expression = a.expression) (hlabel : roll.label = a.label)
      (herror : roll.error = none) (hfaces : roll.faces.length = f.thrown.length) : Records a roll
  /-- The total is no amount, and there are no faces on record. -/
  | overflow {f : Formula} (h : a.formula = .ok f) :
      Records a (.failed a.expression a.label (Formula.overflowReason a.expression))
  /-- The text is no formula. -/
  | unread {err : FormulaError} (h : a.formula = .error err) :
      Records a (.failed a.expression a.label err.message)

theorem dice_roll (a : Asked) (dice : Dice) : (a.roll dice).2 = (dice.draw a.sides).2 := by
  unfold roll sides
  split
  · exact congrArg Prod.snd (Formula.throw_eq_draw _ dice)
  · rfl

/-- What is rolled is on record, with the faces drawn unless its total overflows. -/
theorem records_roll (a : Asked) (dice : Dice) : a.Records (a.roll dice).1 ∧
    ((a.roll dice).1.error ≠ some (Formula.overflowReason (a.roll dice).1.expression) →
      (a.roll dice).1.faces = (dice.draw a.sides).1) := by
  cases hformula : a.formula with
  | error err =>
      have hroll : a.roll dice = (.failed a.expression a.label err.message, dice) := by
        rw [roll, hformula]
      have hsides : a.sides = [] := by rw [sides, hformula]
      rw [hroll, hsides]
      exact ⟨.unread hformula, fun _ => rfl⟩
  | ok f =>
      have hroll : a.roll dice = f.rollWith a.expression a.label dice := by rw [roll, hformula]
      have hsides : a.sides = f.thrown := by rw [sides, hformula]
      have hdraw : (f.throw dice).1.faces = (dice.draw f.thrown).1 :=
        congrArg Prod.fst (f.throw_eq_draw dice)
      rw [hroll, hsides, Formula.rollWith]
      rcases f.record_cases a.expression a.label (f.throw dice).1 with
        hfailed | ⟨hexpression, hlabel, herror, hfaces⟩
      · rw [hfailed]
        exact ⟨.overflow hformula, fun h => absurd rfl h⟩
      · refine ⟨.thrown hformula hexpression hlabel herror ?_, fun _ => hfaces.trans hdraw⟩
        rw [hfaces, hdraw, Dice.length_draw]

end Asked

/-- The rolls of an ability score: one, or none where nothing is rolled. -/
def AbilityMethod.asked (method : AbilityMethod) : List Asked :=
  method.formula?.toList.map (Asked.ofFormula · (some "Ability Score"))

/-- The scores are the totals of the rolls; where nothing is rolled, each is 8. -/
def AbilityMethod.Scores (method : AbilityMethod) (count : Nat) (rolls : List Roll)
    (scores : List Int) : Prop :=
  scores = if method.formula?.isSome then rolls.map (·.total) else List.replicate count 8

/-- The rolls of some more levels, of which the first is `level`. -/
def levelsAsked (hitDie levels level : Nat) : List Asked :=
  (List.range' level levels).map fun level =>
    .ofFormula ⟨1, hitDie, 0, none, .normal⟩ (some s!"Hit Points (level {level})")

namespace RollRequest

/-- The rolls that a request asks for, in the order rolled. -/
def asked : RollRequest → List Asked
  | .text written label => [.ofText written label]
  | .formula f label => [.ofFormula f label]
  | .check modifier _ mode label => [.ofFormula (.d20 modifier mode) label]
  | .abilityScore method => method.asked
  | .abilityScores method => (List.replicate abilityNames.length method.asked).flatten
  | .hitPoints hitDie level _ => levelsAsked hitDie (level - 1) 2
  | .recent _ | .forget => []

/-- The reply to a request tells what was rolled for it. -/
def Tells : RollRequest → List Roll → RollReply → Prop
  | .text _ _, rolls, reply => ∃ roll, rolls = [roll] ∧ reply = .roll roll
  | .formula _ _, rolls, reply => ∃ roll, rolls = [roll] ∧ reply = .roll roll
  | .check _ difficulty _ _, rolls, reply =>
    ∃ roll, rolls = [roll] ∧
      reply = .check ⟨roll, roll.total, difficulty, decide (difficulty ≤ roll.total)⟩
  | .abilityScore method, rolls, reply =>
    ∃ score, method.Scores 1 rolls [score] ∧ reply = .amount score
  | .abilityScores method, rolls, reply =>
    ∃ scores, method.Scores abilityNames.length rolls scores ∧ reply = .amounts scores
  | .hitPoints hitDie _ constitution, rolls, reply =>
    reply = .amount (max (rolls.foldl
      (fun total roll => Amount.add (Amount.add total roll.total) constitution)
      (Amount.add (Amount.ofCount hitDie) constitution)) 1)
  | .recent _, rolls, _ => rolls = []
  | .forget, rolls, _ => rolls = []

end RollRequest

/-! ### Rolls in a row -/

namespace Roller

variable {r : Roller} {asked : List Asked} {script : List Nat} {request : RollRequest}
  {requests : List RollRequest}

/-- What is asked for, rolled and remembered. -/
def serve (r : Roller) (a : Asked) : Roll × Roller := r.remember (a.roll r.dice)

/-- One roll after the other. -/
def serveAll (r : Roller) : List Asked → List Roll × Roller
  | [] => ([], r)
  | a :: rest =>
    let first := r.serve a
    let others := first.2.serveAll rest
    (first.1 :: others.1, others.2)

/-- A roller after one request after the other. -/
def answerAll (r : Roller) : List RollRequest → Roller
  | [] => r
  | request :: rest => (r.answer request).2.answerAll rest

theorem serveAll_append (r : Roller) (asked asked' : List Asked) :
    r.serveAll (asked ++ asked') =
      ((r.serveAll asked).1 ++ ((r.serveAll asked).2.serveAll asked').1,
        ((r.serveAll asked).2.serveAll asked').2) := by
  induction asked generalizing r with
  | nil => rfl
  | cons a rest ih => rw [List.cons_append, serveAll, ih]; rfl

/-- Rolls are appended to the history. -/
theorem history_serveAll (r : Roller) (asked : List Asked) :
    (r.serveAll asked).2.history.toList = r.history.toList ++ (r.serveAll asked).1 := by
  induction asked generalizing r with
  | nil => exact (List.append_nil _).symm
  | cons a rest ih =>
      have hfirst : (r.serve a).2.history.toList = r.history.toList ++ [(r.serve a).1] := by
        rw [serve, history_remember, Array.toList_push]; rfl
      rw [serveAll, ih, hfirst, List.append_assoc, List.singleton_append]

theorem dice_serveAll (r : Roller) (asked : List Asked) :
    (r.serveAll asked).2.dice = (r.dice.draw (asked.flatMap Asked.sides)).2 := by
  induction asked generalizing r with
  | nil => rfl
  | cons a rest ih =>
      have hfirst : (r.serve a).2.dice = (r.dice.draw a.sides).2 := a.dice_roll r.dice
      rw [serveAll, ih, hfirst, List.flatMap_cons, Dice.draw_append]

theorem records_serveAll (r : Roller) (asked : List Asked) :
    List.Forall₂ Asked.Records asked (r.serveAll asked).1 := by
  induction asked generalizing r with
  | nil => exact .nil
  | cons a rest ih => exact .cons (a.records_roll r.dice).1 (ih _)

/-- The faces on record are those drawn, unless a total overflows. -/
theorem faces_serveAll (h : ∀ roll ∈ (r.serveAll asked).1,
      roll.error ≠ some (Formula.overflowReason roll.expression)) :
    (r.serveAll asked).1.flatMap (·.faces) = (r.dice.draw (asked.flatMap Asked.sides)).1 := by
  induction asked generalizing r with
  | nil => rfl
  | cons a rest ih =>
      obtain ⟨hfirst, hrest⟩ := List.forall_mem_cons.mp h
      have hfaces : (r.serve a).1.faces = (r.dice.draw a.sides).1 :=
        (a.records_roll r.dice).2 hfirst
      have hdice : (r.serve a).2.dice = (r.dice.draw a.sides).2 := a.dice_roll r.dice
      rw [serveAll, List.flatMap_cons, List.flatMap_cons, Dice.draw_append, ih hrest, hfaces, hdice]

/-! ### Requests are rolls in a row -/

theorem roll_eq_serve (r : Roller) (text : String) (label : Option String) :
    r.roll text label = r.serve (.ofText text label) := by
  unfold roll serve Asked.ofText
  cases Formula.parse text <;> rfl

theorem scores_eq_serveAll (r : Roller) (method : AbilityMethod) (count : Nat) :
    (r.scores method count).2 = (r.serveAll (List.replicate count method.asked).flatten).2 ∧
      method.Scores count (r.serveAll (List.replicate count method.asked).flatten).1
        (r.scores method count).1 := by
  induction count generalizing r with
  | zero => cases method <;> exact ⟨rfl, rfl⟩
  | succ count ih =>
      rw [List.replicate_succ, List.flatten_cons, serveAll_append]
      cases method with
      | fourD6DropLowest =>
          obtain ⟨hroller, hscores⟩ := ih (r.abilityScore .fourD6DropLowest).2
          exact ⟨hroller, congrArg (List.cons _) hscores⟩
      | threeD6 =>
          obtain ⟨hroller, hscores⟩ := ih (r.abilityScore .threeD6).2
          exact ⟨hroller, congrArg (List.cons _) hscores⟩
      | pointBuy =>
          obtain ⟨hroller, hscores⟩ := ih r
          exact ⟨hroller, congrArg (List.cons 8) hscores⟩

theorem levelUp_eq_serveAll (hitDie : Nat) (constitution total : Int) (levels level : Nat)
    (r : Roller) : levelUp hitDie constitution levels level total r =
      ((r.serveAll (levelsAsked hitDie levels level)).1.foldl
        (fun total roll => Amount.add (Amount.add total roll.total) constitution) total,
        (r.serveAll (levelsAsked hitDie levels level)).2) := by
  induction levels generalizing level total r with
  | zero => rfl
  | succ levels ih => exact ih _ _ _

/-- A request is answered by a row of rolls, which the reply tells. -/
theorem answer_eq_serveAll (h : request ≠ .forget) (r : Roller) :
    (r.answer request).2 = (r.serveAll request.asked).2 ∧
      request.Tells (r.serveAll request.asked).1 (r.answer request).1 := by
  cases request with
  | text text label =>
      rw [answer, roll_eq_serve]
      exact ⟨rfl, _, rfl, rfl⟩
  | formula f label => exact ⟨rfl, _, rfl, rfl⟩
  | check modifier difficulty mode label => exact ⟨rfl, _, rfl, rfl⟩
  | abilityScore method => cases method <;> exact ⟨rfl, _, rfl, rfl⟩
  | abilityScores method =>
      obtain ⟨hroller, hscores⟩ := r.scores_eq_serveAll method abilityNames.length
      simp only [answer, abilityScores, RollRequest.Tells, RollRequest.asked]
      exact ⟨hroller, _, hscores, rfl⟩
  | hitPoints hitDie level constitution =>
      rw [answer, hitPoints, levelUp_eq_serveAll, RollRequest.Tells, RollRequest.asked]
      exact ⟨rfl, rfl⟩
  | recent limit => exact ⟨rfl, rfl⟩
  | forget => exact absurd rfl h

/-- A session that forgets nothing is a row of rolls. -/
theorem answerAll_eq_serveAll (h : ∀ request ∈ requests, request ≠ .forget) (r : Roller) :
    r.answerAll requests = (r.serveAll (requests.flatMap RollRequest.asked)).2 := by
  induction requests generalizing r with
  | nil => rfl
  | cons request rest ih =>
      obtain ⟨hfirst, hrest⟩ := List.forall_mem_cons.mp h
      rw [answerAll, ih hrest, (answer_eq_serveAll hfirst r).1, List.flatMap_cons, serveAll_append]

/-- **A session uses the faces of its script one by one.**  When no total overflows and nothing is
forgotten, every roll asked for has its entry in the history, and the faces in the history are those
of the script, each used once, in order, going around, and held on the die that was thrown.  Every
request appends its rolls to the history, and a text that is no formula takes no die. -/
theorem history_shows_script (hscript : script ≠ [])
    (hkept : ∀ request ∈ requests, request ≠ .forget)
    (hfits : ∀ roll ∈ ((ofDice (.ofFaces script)).answerAll requests).history.toList,
      roll.error ≠ some (Formula.overflowReason roll.expression)) :
    let final := (ofDice (.ofFaces script)).answerAll requests
    let history := final.history.toList
    let faces := history.flatMap (·.faces)
    let asked := requests.flatMap RollRequest.asked
    let sides := asked.flatMap Asked.sides
    List.Forall₂ Asked.Records asked history ∧
      faces.length = sides.length ∧ final.dice = .scripted script faces.length ∧
      (∀ k s, sides[k]? = some s → ∃ face, script[k % script.length]? = some face ∧
        faces[k]? = some (max 1 (min face (max s 1)))) ∧
      (∀ (r : Roller) (request : RollRequest), request ≠ .forget →
        ∃ rolls, (r.answer request).2.history.toList = r.history.toList ++ rolls ∧
          List.Forall₂ Asked.Records request.asked rolls ∧
          request.Tells rolls (r.answer request).1) ∧
      ∀ (r : Roller) (text : String) (label : Option String) (err : FormulaError),
        Formula.parse text = .error err →
          ∃ roll, (r.roll text label).2 = ⟨r.dice, r.history.push roll⟩ ∧
            roll.faces = [] ∧ roll.total = 0 ∧ roll.isError = true := by
  intro final history faces asked sides
  have hfinal : final = ((ofDice (.ofFaces script)).serveAll asked).2 :=
    answerAll_eq_serveAll hkept _
  have hhistory : history = ((ofDice (.ofFaces script)).serveAll asked).1 :=
    (congrArg (·.history.toList) hfinal).trans (history_serveAll _ asked)
  have hdice : final.dice = ((Dice.ofFaces script).draw sides).2 :=
    (congrArg (·.dice) hfinal).trans (dice_serveAll _ asked)
  have hfaces : faces = ((Dice.ofFaces script).draw sides).1 :=
    (congrArg (List.flatMap (·.faces)) hhistory).trans (faces_serveAll (hhistory ▸ hfits))
  have hlength : faces.length = sides.length := by rw [hfaces, Dice.length_draw]
  refine ⟨hhistory ▸ records_serveAll _ asked, hlength, ?_, fun k s hs => ?_,
    fun r request hrequest => ?_, fun r text label err herr => ?_⟩
  · rw [hdice, hlength, Dice.ofFaces, Dice.dice_draw_scripted hscript, Nat.zero_add]
  · have hk := Dice.getElem?_draw_scripted hscript 0 hs
    rw [hfaces]
    rwa [Nat.zero_add] at hk
  · obtain ⟨hroller, htells⟩ := answer_eq_serveAll hrequest r
    exact ⟨_, hroller ▸ history_serveAll r request.asked, records_serveAll r request.asked, htells⟩
  · have hroll : r.roll text label = r.remember (.failed text label err.message, r.dice) := by
      rw [roll, herr]
    exact ⟨_, congrArg Prod.snd hroll, rfl, rfl, rfl⟩

/-- A check with advantage takes two faces, a text that is no formula none, and the script begins
again. -/
theorem history_shows_script_mixed :
    let requests : List RollRequest := [.check 2 15 .advantage none, .text "d" none,
      .hitPoints 8 2 1, .abilityScore .threeD6]
    let history := ((ofDice (.ofFaces [20, 0, 7])).answerAll requests).history.toList
    history.map (·.faces) = [[20, 1], [], [7], [6, 1, 6]] ∧
      List.Forall₂ Asked.Records (requests.flatMap RollRequest.asked) history := by
  intro requests history
  have hkept : ∀ request ∈ requests, request ≠ .forget := by simp [requests]
  exact ⟨by decide, (history_shows_script (List.cons_ne_nil 20 [0, 7]) hkept (by decide)).1⟩

end Roller

end Tabletop
