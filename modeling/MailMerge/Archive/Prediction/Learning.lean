import MailMerge.Archive.Prediction.Model

/-!
# Learning

What a model learns when a guess was right: weights grow, the byte becomes a guess of all longer
contexts that did not have it, and the context for the next byte is found or made.
-/

namespace MailMerge.Archive.Prediction.Model

/-- The spot of a byte in the suffix of the context at hand, raised, where that has one. A guess
that weighs as much as the one before it changes places with it. -/
def raiseSuffix (m : Model) (b : UInt8) (weight : Nat) : Model × Option Spot :=
  match (m.context m.here).suffix with
  | none => (m, none)
  | some suffix =>
    if weightLimit / 4 ≤ weight then (m, none)
    else
      let c := m.context suffix
      let spot := m.spot suffix b
      if c.isSingle then
        (if c.weight 0 < 32 then m.modify suffix (·.addWeight 0 1) else m, some spot)
      else
        let before := spot.index - 1
        let (m, spot) :=
          if 0 < spot.index && c.weight before ≤ c.weight spot.index then
            (m.modify suffix (·.swap spot.index before), ⟨suffix, before⟩)
          else (m, spot)
        if (m.guess spot).weight < weightLimit - 9 then
          (m.modify suffix (·.raise spot.index 2), some spot)
        else (m, some spot)

/-- Makes the guesses of a byte lead to the end of the text, from the suffix of a context on, up to
one that leads anywhere; gives its spot, or else the context of no bytes. -/
def leadToText (m : Model) (b : UInt8) (known : Option Spot) (place : Nat) :
    Nat → Model × Except Nat Spot
  | 0 => (m, .error place)
  | fuel + 1 =>
    match (m.context place).suffix with
    | none => (m, .error place)
    | some suffix =>
      let (m, spot) :=
        match known with
        | some spot => (m, spot)
        | none =>
          let c := m.context suffix
          let spot := m.spot suffix b
          if c.isSingle then
            (if c.weight 0 < 32 then m.modify suffix (·.addWeight 0 1) else m, spot)
          else if c.weight spot.index < weightLimit - 9 then
            (m.modify suffix (·.raise spot.index 2), spot)
          else (m, spot)
      match (m.guess spot).next with
      | .none =>
        let m := m.setNext spot (.text m.heap.text)
        leadToText { m with fall := m.fall + 1 } b none suffix fuel
      | _ => (m, .ok spot)

/-- The context for the next byte where the right guess led nowhere yet. -/
def reduceOrder (m : Model) (known : Option Spot) : Option Nat × Model :=
  let b := (m.guess m.found).byte
  let m := m.setNext m.found (.text m.heap.text)
  match { m with fall := m.fall + 1 }.leadToText b known m.here (m.order + 2) with
  | (m, .error root) => (some root, m)
  | (m, .ok spot) =>
    let m :=
      match (m.guess spot).next with
      | .text _ =>
        match m.successor spot false none with
        | (some place, m) => m.setNext spot (.context place)
        | (none, m) => m.setNext spot .none
      | _ => m
    let next := (m.guess spot).next
    let m :=
      if m.fall = 1 && m.here = m.longest then
        { m.setNext m.found next with heap := { m.heap with text := m.heap.text - 1 } }
      else m
    match next with
    | .context place => (some place, m)
    | _ => (none, m)

/-- Makes the block of a context's guesses fit fewer of them. -/
def shrinkBlock (m : Model) (place oldUnits : Nat) : Model :=
  let c := m.context place
  let (block, heap) := m.heap.shrink c.block oldUnits (Context.unitCount c.guesses.size)
  { m with heap := heap }.modify place fun c => { c with block := block }

/-- Halves the weights of a context, or only makes its block fit. -/
def refresh (m : Model) (place oldUnits : Nat) (again : Bool) : Model :=
  (m.shrinkBlock place oldUnits).modify place (·.refresh again)

/-- The contexts from one to another by their suffixes, without the last. -/
def chain (m : Model) (first last : Nat) : Nat → List Nat
  | 0 => []
  | fuel + 1 =>
    if first = last then []
    else
      match (m.context first).suffix with
      | some suffix => first :: m.chain suffix last fuel
      | none => [first]

/-- Takes back the last guess of a context. -/
def dropLast (m : Model) (place : Nat) : Model :=
  let m := m.modify place fun c => { c with guesses := c.guesses.pop }
  let c := m.context place
  if c.isSingle then
    { m with heap := m.heap.releaseUnit c.block }.modify place fun c => c.reduced (c.guess 0)
  else m.refresh place (Context.unitCount (c.guesses.size + 1)) false

/-- Weakens a context. -/
def weaken (m : Model) (place : Nat) : Model :=
  let c := m.context place
  if c.isSingle then
    m.modify place fun c => c.modifyGuess 0 fun g => { g with weight := g.weight - g.weight / 2 }
  else
    let m := m.modify place fun c => { c with total := c.total + 4 }
    if 128 + 4 * c.others < c.total + 4 then
      m.refresh place (Context.unitCount c.guesses.size) true
    else m

/-- The greatest number of bytes of a context that is kept though it leads nowhere. -/
def keptOrder : Nat := 9

/-- Forgets what only leads to text in a context of `order` bytes, where `follow` does so behind a
guess that leads to a context. Gives whether anything is left. -/
def cutContext (follow : Model → Spot → Model) (m : Model) (place order : Nat) : Bool × Model :=
  let c := m.context place
  if c.isSingle then
    match (c.guess 0).next with
    | .context _ =>
      let m := follow m ⟨place, 0⟩
      if (m.guess ⟨place, 0⟩).next ≠ .none || order ≤ keptOrder then (true, m)
      else (false, { m with heap := m.heap.releaseUnit place })
    | _ => (false, { m with heap := m.heap.releaseUnit place })
  else
    let units := Context.unitCount c.guesses.size
    let (block, heap) := m.heap.moveUp c.block units
    let m := { m with heap := heap }.modify place fun c => { c with block := block }
    let (m, kept) := (List.range c.guesses.size).reverse.foldl
      (fun (m, kept) i =>
        match (m.guess ⟨place, i⟩).next with
        | .context _ => (follow m ⟨place, i⟩, kept)
        | _ => (m.modify place fun c => (c.setNext i .none).swap i (kept - 1), kept - 1))
      (m, c.guesses.size)
    if kept = c.guesses.size || order = 0 then (true, m)
    else
      let m := m.modify place fun c => { c with guesses := c.guesses.take kept }
      let c := m.context place
      if kept = 0 then
        let heap := m.heap.release c.block (classOf units)
        (false, { m with heap := heap.releaseUnit place })
      else if kept = 1 then
        let heap := m.heap.release c.block (classOf units)
        (true, { m with heap := heap }.modify place fun c => c.reduced (c.guess 0))
      else (true, m.refresh place units (16 * (kept - 1) < c.total))

/-- Forgets what only leads to text in a context and in those that it leads to, which have at most
`deep` bytes more. -/
def cutOff : Nat → Model → Nat → Nat → Bool × Model
  | 0, m, place, order => cutContext (fun m spot => m.setNext spot .none) m place order
  | deep + 1, m, place, order =>
    cutContext
      (fun m spot =>
        match (m.guess spot).next with
        | .context next =>
          let (isLeft, m) := cutOff deep m next (order + 1)
          if isLeft then m else m.setNext spot .none
        | _ => m)
      m place order

/-- Forgets until at most three quarters of the room are in use. -/
def forget (m : Model) (root : Nat) : Nat → Model
  | 0 => m
  | fuel + 1 =>
    let (_, m) := cutOff m.order m root 0
    let m := { m with heap := m.heap.expandText }
    if 3 * (m.heap.size / 4) < m.heap.used then m.forget root fuel else m

/-- The context of no bytes. -/
def rootFrom (m : Model) (place : Nat) : Nat → Nat
  | 0 => place
  | fuel + 1 =>
    match (m.context place).suffix with
    | some suffix => m.rootFrom suffix fuel
    | none => place

/-- Makes room where there is none left. The contexts from the longest one to `reached`, which is
not among them, have a guess more than they had before. -/
def restore (m : Model) (reached : Nat) : Model :=
  let steps := m.order + 2
  let added := m.chain m.longest reached steps
  let others := m.chain reached m.here steps
  let m := { m with heap := { m.heap with text := 0 } }
  let m := others.foldl weaken (added.foldl dropLast m)
  if m.restarts || m.heap.used < m.heap.size / 2 then
    { fresh m.order m.heap.size m.restarts m.text with escapeWeight := m.escapeWeight }
  else
    let root := m.rootFrom m.longest steps
    let m := m.forget root 64
    { m with
      heap := { m.heap with patience := 0 }
      fall := m.order
      longest := root }

/-- A block for one guess more, in a context or in one of a single guess. -/
def growBlock (m : Model) (place : Nat) : Bool × Model :=
  let c := m.context place
  if c.isSingle then
    match m.heap.allocate 0 with
    | (none, heap) => (false, { m with heap := heap })
    | (some block, heap) =>
      (true, { m with heap := heap }.modify place fun c => { c with block := block })
  else
    let units := Context.unitCount c.guesses.size
    let old := classOf units
    if c.guesses.size % 2 = 1 || old = classOf (units + 1) then (true, m)
    else
      match m.heap.allocate (old + 1) with
      | (none, heap) => (false, { m with heap := heap })
      | (some block, heap) =>
        (true, { m with heap := heap.release c.block old }.modify place fun c =>
          { c with block := block })

/-- The weight of a new guess and how much the total grows, from the weight `own` of the same byte
in the context at hand, where all others weigh `rest`. -/
def newWeight (own rest total : Nat) : Nat × Nat :=
  let share := 2 * own * (total + 6)
  let sum := rest + total
  if share < 6 * sum then
    (1 + (decide (sum < share)).toNat + (decide (4 * sum ≤ share)).toNat, 4)
  else
    let w := 4 + (decide (9 * sum < share)).toNat + (decide (12 * sum < share)).toNat +
      (decide (15 * sum < share)).toNat
    (w, w)

/-- A context with a guess more. `guesses` is how many there are in the context at hand. -/
def addGuess (escapeWeight own rest guesses : Nat) (b : UInt8) (next : Link) (c : Context) :
    Context :=
  let c :=
    if c.isSingle then
      let w := c.weight 0
      let w := if w < weightLimit / 4 - 1 then 2 * w else weightLimit - 4
      { c with
        guesses := c.guesses.modify 0 fun g => { g with weight := w }
        total := w + escapeWeight + (decide (3 < guesses)).toNat }
    else { c with total := c.total + (decide (3 * c.others + 2 < guesses)).toNat }
  let (w, more) := newWeight own rest c.total
  { c with
    guesses := c.guesses.push ⟨b, w, next⟩
    total := c.total + more
    holdsHigh := c.holdsHigh || highByte ≤ b }

/-- Adds the guess to contexts, or makes room and gives none. -/
def addAll (own rest guesses : Nat) (b : UInt8) (next : Link) (m : Model) :
    List Nat → Option Model × Model
  | [] => (some m, m)
  | place :: places =>
    match m.growBlock place with
    | (false, m) => (none, m.restore place)
    | (true, m) =>
      addAll own rest guesses b next
        (m.modify place (addGuess m.escapeWeight own rest guesses b next)) places

/-- Goes to the context that is known for the next byte, after room was made. -/
def atLongest (m : Model) : Model :=
  { m with here := m.longest }

/-- Learns that the guess that was found is right. -/
def learn (m : Model) : Model :=
  let g := m.guess m.found
  let (m, known) := m.raiseSuffix g.byte g.weight
  if m.fall = 0 && g.next ≠ .none then
    match m.successor m.found true known with
    | (some place, m) =>
      atLongest { m.setNext m.found (.context place) with longest := place }
    | (none, m) => atLongest ((m.setNext m.found .none).restore m.longest)
  else
    let m := m.write g.byte
    if m.heap.units ≤ m.heap.text then atLongest (m.restore m.longest)
    else
      let toText := m.heap.text
      let (after, m) :=
        match g.next with
        | .none => m.reduceOrder known
        | .text _ => m.successor m.found false known
        | .context place => (some place, m)
      match after with
      | none => atLongest (m.restore m.longest)
      | some after =>
        let m := { m with fall := m.fall - 1 }
        let (m, next) :=
          if m.fall = 0 then
            let back := if m.longest = m.here then 0 else 1
            ({ m with heap := { m.heap with text := m.heap.text - back } }, Link.context after)
          else (m, Link.text toText)
        let c := m.context m.here
        let rest := c.total - c.others - g.weight
        match m.addAll g.weight rest c.guesses.size g.byte next
            (m.chain m.longest m.here (m.order + 2)) with
        | (some m, _) => { m with longest := after, here := after }
        | (none, m) => atLongest m

/-- Halves the weights of the context at hand after putting the right guess in front; guesses of no
weight are dropped. -/
def halve (m : Model) : Model :=
  let adder := if m.fall = 0 then 0 else 1
  let c := m.context m.here
  let guesses := (Context.toFront c.guesses m.found.index)
  let known := guesses.foldl (fun n g => n + g.weight) 0
  let spare := c.total - known
  let guesses := Context.halveFrom adder
    (guesses.modify 0 fun g => { g with weight := (g.weight + 4 + adder) / 2 }) 1
    (guesses.size - 1)
  let dropped := (guesses.toList.reverse.takeWhile fun g => g.weight = 0).length
  let spare := spare + dropped
  let kept := guesses.take (guesses.size - dropped)
  let units := Context.unitCount guesses.size
  let m := { m with found := ⟨m.here, 0⟩ }
  if dropped ≠ 0 && kept.size = 1 then
    let first := kept[0]?.getD ⟨0, 0, .none⟩
    let weight := min ((2 * first.weight + spare - 1) / spare) (weightLimit / 3)
    { m with heap := m.heap.release c.block (classOf units) }.modify m.here fun c =>
      { c with
        guesses := #[{ first with weight := weight }]
        holdsHigh := first.isHigh
        isHalved := false }
  else
    let sum := kept.foldl (fun n g => n + g.weight) 0
    let m := m.modify m.here fun c =>
      { c with
        guesses := kept
        total := sum + spare - spare / 2
        holdsHigh := if dropped = 0 then c.holdsHigh else Context.highMark kept
        isHalved := true }
    if dropped = 0 then m else m.shrinkBlock m.here units

/-- Raises the guess that was found, and halves all weights if it becomes too heavy. -/
def raiseFound (m : Model) : Model :=
  let m := m.modify m.found.context (·.raise m.found.index 4)
  if weightLimit < (m.guess m.found).weight then m.halve else m

/-- Raises the guess that was found, which is not the first. It changes places with the one before
it if it weighs more, and only then are weights halved. -/
def raiseLater (m : Model) : Model :=
  let spot := m.found
  let m := m.modify spot.context (·.raise spot.index 4)
  let c := m.context spot.context
  let before := spot.index - 1
  if c.weight before < c.weight spot.index then
    let m := { m.modify spot.context (·.swap spot.index before) with
      found := ⟨spot.context, before⟩ }
    if weightLimit < (m.guess m.found).weight then m.halve else m
  else m

/-- Goes on to the context that the right guess leads to, or learns first. -/
def advance (m : Model) : Model :=
  match m.fall, (m.guess m.found).next with
  | 0, .context place => { m with here := place, longest := place }
  | _, _ => m.learn

end MailMerge.Archive.Prediction.Model
