import Provision.Disk.Walk
import Provision.Proofs.Disk.Nodes

namespace Provision.Disk

/-!
# Where paths lead

A path leads somewhere by one rule for each kind of step; a link is replaced by
its target. The walk arrives exactly where the rules lead, as far as its number
of links allows. Only directories and links count on the way, so a disk that
agrees on those is walked alike.
-/

/-- Steps lead from a location to another one over at most so many links. -/
inductive Leads (disk : Disk) (last : LastLink) :
    Nat → Location → List PathStep → Location → Prop where
  | arrived {links : Nat} {location : Location} :
      Leads disk last links location [] location
  | stay {links : Nat} {location place : Location} {rest : List PathStep} :
      disk.node? location = some .directory →
      Leads disk last links location rest place →
      Leads disk last links location (.stay :: rest) place
  | up {links : Nat} {location place : Location} {rest : List PathStep} :
      disk.node? location = some .directory →
      Leads disk last links location.dropLast rest place →
      Leads disk last links location (.up :: rest) place
  | enter {links : Nat} {location place : Location} {name : FileName}
      {rest : List PathStep} :
      disk.node? location = some .directory →
      name.bytes.length ≤ nameLimit →
      (∀ target, disk.node? (location ++ [name]) ≠ some (.link target)) →
      Leads disk last links (location ++ [name]) rest place →
      Leads disk last links location (.enter name :: rest) place
  | keep {links : Nat} {location : Location} {name : FileName} {target : Path} :
      disk.node? location = some .directory →
      name.bytes.length ≤ nameLimit →
      disk.node? (location ++ [name]) = some (.link target) →
      last = .kept →
      Leads disk last links location [.enter name] (location ++ [name])
  | follow {links : Nat} {location place : Location} {name : FileName}
      {target : Path} {rest : List PathStep} :
      disk.node? location = some .directory →
      name.bytes.length ≤ nameLimit →
      disk.node? (location ++ [name]) = some (.link target) →
      (last = .kept → rest ≠ []) →
      target.isEmpty = false →
      Leads disk last links (startOf location target) (target.steps ++ rest)
        place →
      Leads disk last (links + 1) location (.enter name :: rest) place

/-- What a walk does where a stretch without links stops. -/
private def resume (disk : Disk) (last : LastLink) :
    Nat → Stop → Except SystemError Location
  | _, .arrived location => .ok location
  | _, .failed reason => .error reason
  | 0, .atLink _ _ _ => .error .tooManyLinks
  | links + 1, .atLink dir target rest =>
      if target.isEmpty then
        .error .notFound
      else
        disk.walk last links (startOf dir target) (target.steps ++ rest)

private theorem walk_eq_resume
    (disk : Disk)
    (last : LastLink)
    (links : Nat)
    (location : Location)
    (steps : List PathStep) :
    disk.walk last links location steps =
      resume disk last links (disk.advance last location steps) := by
  rw [walk.eq_def]
  cases stopped : disk.advance last location steps <;> cases links <;>
    simp only [stopped, resume]

section Stretches

variable {disk : Disk} {last : LastLink} {location : Location}
  {name : FileName} {target : Path} {rest : List PathStep}

private theorem advance_stay
    (isDirectory : disk.node? location = some .directory) :
    disk.advance last location (.stay :: rest) =
      disk.advance last location rest := by
  simp only [advance, isDirectory]

private theorem advance_up
    (isDirectory : disk.node? location = some .directory) :
    disk.advance last location (.up :: rest) =
      disk.advance last location.dropLast rest := by
  simp only [advance, isDirectory]

private theorem advance_enter
    (isDirectory : disk.node? location = some .directory)
    (fits : name.bytes.length ≤ nameLimit)
    (noLink : ∀ target, disk.node? (location ++ [name]) ≠ some (.link target)) :
    disk.advance last location (.enter name :: rest) =
      disk.advance last (location ++ [name]) rest := by
  simp only [advance, isDirectory, Nat.not_lt.mpr fits, ↓reduceIte]

private theorem advance_link
    (isDirectory : disk.node? location = some .directory)
    (fits : name.bytes.length ≤ nameLimit)
    (isLink : disk.node? (location ++ [name]) = some (.link target)) :
    disk.advance last location (.enter name :: rest) =
      if rest.isEmpty && last == .kept then
        .arrived (location ++ [name])
      else
        .atLink location target rest := by
  simp only [advance, isDirectory, Nat.not_lt.mpr fits, ↓reduceIte, isLink]

private theorem exists_advance_failed
    (last : LastLink)
    (step : PathStep)
    (rest : List PathStep)
    (notDirectory : disk.node? location ≠ some .directory) :
    ∃ reason, disk.advance last location (step :: rest) = .failed reason := by
  rw [advance.eq_def]
  cases found : disk.node? location with
  | none => exact ⟨_, rfl⟩
  | some node =>
      cases node with
      | directory => exact (notDirectory found).elim
      | file => exact ⟨_, rfl⟩
      | link => exact ⟨_, rfl⟩
      | device => exact ⟨_, rfl⟩

end Stretches

/-- The walk arrives where the rules lead. -/
theorem Leads.walk_eq
    {disk : Disk}
    {last : LastLink}
    {links : Nat}
    {location place : Location}
    {steps : List PathStep}
    (leads : Leads disk last links location steps place) :
    disk.walk last links location steps = .ok place := by
  induction leads with
  | arrived =>
      rw [walk_eq_resume, advance, resume]
  | stay isDirectory _ inductionHypothesis =>
      rw [walk_eq_resume, advance_stay isDirectory, ← walk_eq_resume,
        inductionHypothesis]
  | up isDirectory _ inductionHypothesis =>
      rw [walk_eq_resume, advance_up isDirectory, ← walk_eq_resume,
        inductionHypothesis]
  | enter isDirectory fits noLink _ inductionHypothesis =>
      rw [walk_eq_resume, advance_enter isDirectory fits noLink,
        ← walk_eq_resume, inductionHypothesis]
  | keep isDirectory fits isLink kept =>
      rw [walk_eq_resume, advance_link isDirectory fits isLink, kept]
      rfl
  | @follow links _ _ _ _ rest isDirectory fits isLink goesOn named _
      inductionHypothesis =>
      have goes : (rest.isEmpty && last == .kept) = false := by
        cases last <;> cases rest <;> simp_all
      rw [walk_eq_resume, advance_link isDirectory fits isLink, goes]
      simp only [Bool.false_eq_true, ↓reduceIte, resume]
      rw [if_neg (by simpa using named), inductionHypothesis]

/-- A stretch without links leads on to where the walk goes from its end. -/
private theorem leads_of_advance
    {disk : Disk}
    {last : LastLink}
    {links : Nat}
    {location place : Location}
    {steps : List PathStep}
    (onward :
      match disk.advance last location steps with
      | .arrived reached => reached = place
      | .failed _ => False
      | .atLink dir target rest =>
          ∃ fewer, links = fewer + 1 ∧ target.isEmpty = false ∧
            Leads disk last fewer (startOf dir target) (target.steps ++ rest)
              place) :
    Leads disk last links location steps place := by
  induction steps generalizing location with
  | nil =>
      simp only [advance] at onward
      exact onward ▸ .arrived
  | cons step rest inductionHypothesis =>
      by_cases isDirectory : disk.node? location = some .directory
      · cases step with
        | stay =>
            rw [advance_stay isDirectory] at onward
            exact .stay isDirectory (inductionHypothesis onward)
        | up =>
            rw [advance_up isDirectory] at onward
            exact .up isDirectory (inductionHypothesis onward)
        | enter name =>
            by_cases fits : name.bytes.length ≤ nameLimit
            · by_cases isLink :
                  ∃ target,
                    disk.node? (location ++ [name]) = some (.link target)
              · obtain ⟨target, isLink⟩ := isLink
                rw [advance_link isDirectory fits isLink] at onward
                by_cases ends : (rest.isEmpty && last == .kept) = true
                · rw [if_pos ends] at onward
                  simp only [Bool.and_eq_true, List.isEmpty_iff,
                    beq_iff_eq] at ends
                  obtain ⟨rfl, kept⟩ := ends
                  exact onward ▸ .keep isDirectory fits isLink kept
                · rw [if_neg ends] at onward
                  obtain ⟨fewer, rfl, named, leads⟩ := onward
                  exact .follow isDirectory fits isLink
                    (fun kept empty => ends (by simp [kept, empty]))
                    named leads
              · have noLink := not_exists.mp isLink
                rw [advance_enter isDirectory fits noLink] at onward
                exact .enter isDirectory fits noLink
                  (inductionHypothesis onward)
            · simp [advance, isDirectory, Nat.not_le.mp fits] at onward
      · obtain ⟨reason, failed⟩ :=
          exists_advance_failed last step rest isDirectory
        rw [failed] at onward
        exact onward.elim

/-- The walk arrives only where the rules lead. -/
theorem leads_of_walk_eq
    {disk : Disk}
    {last : LastLink}
    {links : Nat}
    {location place : Location}
    {steps : List PathStep}
    (arrives : disk.walk last links location steps = .ok place) :
    Leads disk last links location steps place := by
  induction links generalizing location steps with
  | zero =>
      apply leads_of_advance
      rw [walk_eq_resume] at arrives
      split <;> simp_all [resume]
  | succ links inductionHypothesis =>
      apply leads_of_advance
      rw [walk_eq_resume] at arrives
      split
      · simp_all [resume]
      · simp_all [resume]
      · rename_i dir target rest stopped
        rw [stopped, resume] at arrives
        split at arrives
        · cases arrives
        · rename_i named
          exact ⟨links, rfl, by simpa using named,
            inductionHypothesis arrives⟩

namespace Leads

variable {disk : Disk} {last : LastLink} {links : Nat}
  {location place : Location} {steps : List PathStep}

/-- More links do no harm. -/
theorem mono
    {more : Nat}
    (leads : Leads disk last links location steps place)
    (enough : links ≤ more) :
    Leads disk last more location steps place := by
  induction leads generalizing more with
  | arrived =>
      exact .arrived
  | stay isDirectory _ inductionHypothesis =>
      exact .stay isDirectory (inductionHypothesis enough)
  | up isDirectory _ inductionHypothesis =>
      exact .up isDirectory (inductionHypothesis enough)
  | enter isDirectory fits noLink _ inductionHypothesis =>
      exact .enter isDirectory fits noLink (inductionHypothesis enough)
  | keep isDirectory fits isLink kept =>
      exact .keep isDirectory fits isLink kept
  | follow isDirectory fits isLink goesOn named _ inductionHypothesis =>
      obtain ⟨fewer, rfl⟩ : ∃ fewer, more = fewer + 1 :=
        ⟨more - 1, by omega⟩
      exact .follow isDirectory fits isLink goesOn named
        (inductionHypothesis (by omega))

/-- Steps lead to one place, whatever the number of links. -/
theorem unique
    {otherLinks : Nat}
    {other : Location}
    (leads : Leads disk last links location steps place)
    (otherLeads : Leads disk last otherLinks location steps other) :
    place = other := by
  induction leads generalizing otherLinks with
  | arrived =>
      cases otherLeads
      rfl
  | stay _ _ inductionHypothesis =>
      cases otherLeads with
      | stay _ onward => exact inductionHypothesis onward
  | up _ _ inductionHypothesis =>
      cases otherLeads with
      | up _ onward => exact inductionHypothesis onward
  | enter _ _ noLink _ inductionHypothesis =>
      cases otherLeads with
      | enter _ _ _ onward => exact inductionHypothesis onward
      | keep _ _ isLink _ => exact (noLink _ isLink).elim
      | follow _ _ isLink _ _ _ => exact (noLink _ isLink).elim
  | keep _ _ isLink kept =>
      cases otherLeads with
      | enter _ _ noLink _ => exact (noLink _ isLink).elim
      | keep _ _ _ _ => rfl
      | follow _ _ _ goesOn _ _ => exact (goesOn kept rfl).elim
  | follow _ _ isLink goesOn _ _ inductionHypothesis =>
      cases otherLeads with
      | enter _ _ noLink _ => exact (noLink _ isLink).elim
      | keep _ _ _ kept => exact (goesOn kept rfl).elim
      | follow _ _ otherIsLink _ _ onward =>
          rw [isLink, Option.some.injEq, Node.link.injEq] at otherIsLink
          exact inductionHypothesis (otherIsLink ▸ onward)

/-- Where a way does not end at a link, it makes no difference if that were followed. -/
theorem followed_of_noLink
    (leads : Leads disk .kept links location steps place)
    (noLink : ∀ target, disk.node? place ≠ some (.link target)) :
    Leads disk .followed links location steps place := by
  induction leads with
  | arrived =>
      exact .arrived
  | stay isDirectory _ inductionHypothesis =>
      exact .stay isDirectory (inductionHypothesis noLink)
  | up isDirectory _ inductionHypothesis =>
      exact .up isDirectory (inductionHypothesis noLink)
  | enter isDirectory fits entersNoLink _ inductionHypothesis =>
      exact .enter isDirectory fits entersNoLink (inductionHypothesis noLink)
  | keep _ _ isLink _ =>
      exact (noLink _ isLink).elim
  | follow isDirectory fits isLink _ named _ inductionHypothesis =>
      exact .follow isDirectory fits isLink (fun kept => nomatch kept) named
        (inductionHypothesis noLink)

/-- A step is only made from a directory. -/
theorem directory_of_cons
    {step : PathStep}
    (leads : Leads disk last links location (step :: steps) place) :
    disk.node? location = some .directory := by
  cases leads <;> assumption

/-- What leads over more steps leads over the first ones, with every link followed. -/
theorem split
    {front back : List PathStep}
    (leads : Leads disk last links location (front ++ back) place)
    (goesOn : back ≠ []) :
    ∃ between,
      Leads disk .followed links location front between ∧
        Leads disk last links between back place := by
  generalize whole : front ++ back = steps at leads
  induction leads generalizing front with
  | arrived =>
      exact (goesOn (List.append_eq_nil_iff.mp whole).2).elim
  | @stay links location place rest isDirectory onward inductionHypothesis =>
      rcases List.append_eq_cons_iff.mp whole with
          ⟨rfl, rfl⟩ | ⟨front, rfl, restShape⟩
      · exact ⟨_, .arrived, .stay isDirectory onward⟩
      · obtain ⟨between, first, second⟩ :=
          inductionHypothesis restShape.symm
        exact ⟨between, .stay isDirectory first, second⟩
  | @up links location place rest isDirectory onward inductionHypothesis =>
      rcases List.append_eq_cons_iff.mp whole with
          ⟨rfl, rfl⟩ | ⟨front, rfl, restShape⟩
      · exact ⟨_, .arrived, .up isDirectory onward⟩
      · obtain ⟨between, first, second⟩ :=
          inductionHypothesis restShape.symm
        exact ⟨between, .up isDirectory first, second⟩
  | @enter links location place name rest isDirectory fits noLink onward
      inductionHypothesis =>
      rcases List.append_eq_cons_iff.mp whole with
          ⟨rfl, rfl⟩ | ⟨front, rfl, restShape⟩
      · exact ⟨_, .arrived, .enter isDirectory fits noLink onward⟩
      · obtain ⟨between, first, second⟩ :=
          inductionHypothesis restShape.symm
        exact ⟨between, .enter isDirectory fits noLink first, second⟩
  | @keep links location name target isDirectory fits isLink kept =>
      rcases List.append_eq_cons_iff.mp whole with
          ⟨rfl, rfl⟩ | ⟨front, rfl, restShape⟩
      · exact ⟨_, .arrived, .keep isDirectory fits isLink kept⟩
      · exact (goesOn (List.append_eq_nil_iff.mp restShape.symm).2).elim
  | @follow links location place name target rest isDirectory fits isLink
      ends named onward inductionHypothesis =>
      rcases List.append_eq_cons_iff.mp whole with
          ⟨rfl, rfl⟩ | ⟨front, rfl, restShape⟩
      · exact ⟨_, .arrived, .follow isDirectory fits isLink ends named onward⟩
      · obtain ⟨between, first, second⟩ :=
          @inductionHypothesis (target.steps ++ front)
            (by rw [List.append_assoc, restShape])
        exact ⟨between,
          .follow isDirectory fits isLink (by simp) named first,
          second.mono (Nat.le_succ links)⟩

/--
A way to a link is a way to where the link leads, when links are followed to
the end; there is no other end than through the target.
-/
theorem of_link
    {otherLinks : Nat}
    {target : Path}
    {other : Location}
    (leads : Leads disk .kept links location steps place)
    (isLink : disk.node? place = some (.link target))
    (followed : Leads disk .followed otherLinks location steps other)
    (otherNoLink : disk.node? other ≠ some (.link target)) :
    ∃ fewer, Leads disk .followed fewer (startOf place.dropLast target)
      target.steps other := by
  induction leads generalizing otherLinks with
  | arrived =>
      cases followed
      exact (otherNoLink isLink).elim
  | stay _ _ inductionHypothesis =>
      cases followed with
      | stay _ onward =>
          exact inductionHypothesis isLink onward
  | up _ _ inductionHypothesis =>
      cases followed with
      | up _ onward =>
          exact inductionHypothesis isLink onward
  | enter _ _ noLink _ inductionHypothesis =>
      cases followed with
      | enter _ _ _ onward =>
          exact inductionHypothesis isLink onward
      | keep _ _ entered _ => exact (noLink _ entered).elim
      | follow _ _ entered _ _ _ => exact (noLink _ entered).elim
  | keep =>
      cases followed with
      | enter _ _ noLink _ => exact (noLink _ isLink).elim
      | keep _ _ _ kept => cases kept
      | @follow links _ _ _ _ _ _ _ entered _ _ onward =>
          rw [isLink, Option.some.injEq, Node.link.injEq] at entered
          subst entered
          rw [List.append_nil] at onward
          rw [List.dropLast_concat]
          exact ⟨links, onward⟩
  | follow _ _ entered goesOn _ _ inductionHypothesis =>
      cases followed with
      | enter _ _ noLink _ => exact (noLink _ entered).elim
      | keep _ _ _ kept => cases kept
      | follow _ _ otherEntered _ _ onward =>
          rw [entered, Option.some.injEq, Node.link.injEq] at otherEntered
          subst otherEntered
          exact inductionHypothesis isLink onward

/-- A way that passes a link to a file does not end at the link: a file has nothing below it. -/
theorem not_ends_at_link
    {otherLinks : Nat}
    {target : Path}
    {rest : List PathStep}
    {name : FileName}
    {other : Location}
    (leads :
      Leads disk .kept links (startOf location target) (target.steps ++ rest)
        (location ++ [name]))
    (isLink : disk.node? (location ++ [name]) = some (.link target))
    (goesOn : rest ≠ [])
    (followed :
      Leads disk .followed otherLinks (startOf location target)
        (target.steps ++ rest) other)
    (otherNoLink : disk.node? other ≠ some (.link target))
    (otherNoDirectory : disk.node? other ≠ some .directory) :
    False := by
  obtain ⟨fewer, toOther⟩ := leads.of_link isLink followed otherNoLink
  rw [List.dropLast_concat] at toOther
  obtain ⟨between, toBetween, fromBetween⟩ := leads.split goesOn
  obtain ⟨step, more, rfl⟩ := List.exists_cons_of_ne_nil goesOn
  have isDirectory := fromBetween.directory_of_cons
  rw [toBetween.unique toOther] at isDirectory
  exact otherNoDirectory isDirectory

end Leads

/-- Two disks have the same directories and the same links. -/
structure SameWays (before after : Disk) : Prop where
  directory :
    ∀ location,
      after.node? location = some .directory ↔
        before.node? location = some .directory
  link :
    ∀ location target,
      after.node? location = some (.link target) ↔
        before.node? location = some (.link target)

theorem SameWays.symm
    {before after : Disk}
    (sameWays : SameWays before after) :
    SameWays after before where
  directory location := (sameWays.directory location).symm
  link location target := (sameWays.link location target).symm

/-- Only directories and links lead anywhere. -/
theorem Leads.of_sameWays
    {before after : Disk}
    {last : LastLink}
    {links : Nat}
    {location place : Location}
    {steps : List PathStep}
    (leads : Leads before last links location steps place)
    (sameWays : SameWays before after) :
    Leads after last links location steps place := by
  induction leads with
  | arrived =>
      exact .arrived
  | stay isDirectory _ inductionHypothesis =>
      exact .stay ((sameWays.directory _).mpr isDirectory) inductionHypothesis
  | up isDirectory _ inductionHypothesis =>
      exact .up ((sameWays.directory _).mpr isDirectory) inductionHypothesis
  | enter isDirectory fits noLink _ inductionHypothesis =>
      exact .enter ((sameWays.directory _).mpr isDirectory) fits
        (fun target isLink => noLink target ((sameWays.link _ _).mp isLink))
        inductionHypothesis
  | keep isDirectory fits isLink kept =>
      exact .keep ((sameWays.directory _).mpr isDirectory) fits
        ((sameWays.link _ _).mpr isLink) kept
  | follow isDirectory fits isLink goesOn named _ inductionHypothesis =>
      exact .follow ((sameWays.directory _).mpr isDirectory) fits
        ((sameWays.link _ _).mpr isLink) goesOn named inductionHypothesis

/--
A file that takes the place of what a path named is what the path leads to. A
link that stood there cannot have been passed on the way: it led to a file.
-/
theorem Leads.of_replaced
    {before after : Disk}
    {links otherLinks : Nat}
    {location place target : Location}
    {steps : List PathStep}
    (elsewhere :
      ∀ other, other ≠ place → after.node? other = before.node? other)
    (noLinkNow : ∀ path, after.node? place ≠ some (.link path))
    (notDirectory : before.node? place ≠ some .directory)
    (leads : Leads before .kept links location steps place)
    (followed : Leads before .followed otherLinks location steps target)
    (targetNoDirectory : before.node? target ≠ some .directory)
    (targetNoLink : ∀ path, before.node? target ≠ some (.link path)) :
    Leads after .followed links location steps place := by
  have stillDirectory :
      ∀ other, before.node? other = some .directory →
        after.node? other = some .directory := by
    intro other isDirectory
    rw [elsewhere other fun same => notDirectory (same ▸ isDirectory)]
    exact isDirectory
  induction leads generalizing otherLinks with
  | arrived =>
      exact .arrived
  | stay isDirectory _ inductionHypothesis =>
      cases followed with
      | stay _ onward =>
          exact .stay (stillDirectory _ isDirectory)
            (inductionHypothesis elsewhere noLinkNow notDirectory onward)
  | up isDirectory _ inductionHypothesis =>
      cases followed with
      | up _ onward =>
          exact .up (stillDirectory _ isDirectory)
            (inductionHypothesis elsewhere noLinkNow notDirectory onward)
  | @enter links location place name rest isDirectory fits noLink _
      inductionHypothesis =>
      have noLinkAfter :
          ∀ path, after.node? (location ++ [name]) ≠ some (.link path) := by
        by_cases replaced : location ++ [name] = place
        · exact replaced ▸ noLinkNow
        · rw [elsewhere _ replaced]
          exact noLink
      cases followed with
      | enter _ _ _ onward =>
          exact .enter (stillDirectory _ isDirectory) fits noLinkAfter
            (inductionHypothesis elsewhere noLinkNow notDirectory onward)
      | keep _ _ entered _ => exact (noLink _ entered).elim
      | follow _ _ entered _ _ _ => exact (noLink _ entered).elim
  | keep isDirectory fits isLink kept =>
      exact .enter (stillDirectory _ isDirectory) fits noLinkNow .arrived
  | @follow links location place name path rest isDirectory fits isLink
      goesOn named onward inductionHypothesis =>
      cases followed with
      | enter _ _ noLink _ => exact (noLink _ isLink).elim
      | keep _ _ _ kept => cases kept
      | follow _ _ entered _ _ followedOn =>
          rw [isLink, Option.some.injEq, Node.link.injEq] at entered
          subst entered
          have passed : location ++ [name] ≠ place := by
            rintro rfl
            exact onward.not_ends_at_link isLink (goesOn rfl) followedOn
              (targetNoLink path) targetNoDirectory
          exact .follow (stillDirectory _ isDirectory) fits
            (by rw [elsewhere _ passed]; exact isLink) (by simp) named
            (inductionHypothesis elsewhere noLinkNow notDirectory followedOn)

end Provision.Disk
