import Matchmaker.Profile.Basic
import Matchmaker.Seed.Draw
import Matchmaker.Weights

/-!
# Drawn profiles

A profile drawn at random: complete, at a place near one of five cities, with two interests of each
kind and weights from 1 to 5.
-/

namespace Matchmaker.Seed

/-- A city and where it lies. -/
structure City (α : Type) where
  name : String
  lat : α
  lon : α

/-- The cities. -/
def cities {α : Type} [Scalar α] : List (City α) :=
  [⟨"Helsinki", 60.1699, 24.9384⟩, ⟨"Espoo", 60.2055, 24.6559⟩, ⟨"Tampere", 61.4978, 23.7610⟩,
    ⟨"Turku", 60.4518, 22.2666⟩, ⟨"Oulu", 65.0121, 25.4651⟩]

instance {α : Type} [Scalar α] : Inhabited (City α) := ⟨"", 0.0, 0.0⟩

/-- First names. -/
def firstNames : List String :=
  ["Alex", "Sam", "Mia", "Lauri", "Noah", "Olivia", "Leo", "Emil", "Sara", "Luca", "Milla",
    "Mikko", "Eeva", "Niklas", "Sofia"]

/-- Last names. -/
def lastNames : List String :=
  ["Korhonen", "Virtanen", "Nieminen", "Laine", "Heikkinen", "Koski", "Mäki", "Aho", "Salmi",
    "Rantanen"]

/-- Interests away from screens. -/
def hobbies : List String :=
  ["hiking", "photography", "cooking", "reading", "boardgames", "gym", "yoga", "tennis",
    "climbing", "knitting", "guitar", "painting"]

/-- Interests on screens. -/
def digital : List String :=
  ["videogames", "retro gaming", "web dev", "3d art", "music production", "photo editing",
    "programming", "robotics"]

/-- Foods. -/
def foods : List String :=
  ["italian", "japanese", "thai", "indian", "vegan", "french", "korean", "greek", "burgers"]

/-- Kinds of music. -/
def musics : List String :=
  ["rock", "metal", "jazz", "blues", "techno", "house", "ambient", "pop", "folk"]

/-- What members say about themselves. -/
def abouts : List String :=
  ["Curious mind, coffee lover.", "Weekend hiker and weekday coder.", "Always learning new things.",
    "Talk to me about music and tech.", "Into analog photography and ramen."]

/-- How a wish to work together starts. -/
def wishHeads : List String :=
  ["Looking to", "Would love to", "Open to", "Interested in"]

/-- How a wish to work together goes on. -/
def wishTails : List String :=
  [" build things together in a workshop.", " jam with a band.", " teach a beginner some code.",
    " start a collaborative d&d campaign.", " find a mentor for design work."]

section

variable {σ : Type} [Source σ]

/-- A coordinate up to a tenth of a degree from the given one. -/
def nearby {α : Type} [Sampling α] (x : α) : Draw σ Float := do
  return Sampling.toDouble (x + ((← fraction) - 0.5) * 0.2)

/-- Two texts of a list in order, one where they are the same. -/
def twoTexts (texts : List String) : Draw σ (List String) := do
  let two ← sample 2 texts
  return (two.mergeSort fun s t => !(t < s)).eraseDups

/-- Drawn weights. -/
def weights : Draw σ Weights := do
  return { analogPassions := 1 + (← below 5), digitalDelights := 1 + (← below 5),
           collaboration := 1 + (← below 5), food := 1 + (← below 3), music := 1 + (← below 3),
           location := 3 + (← below 3) }

/-- A drawn profile of a member. -/
def profile (α : Type) [Sampling α] (user : Int) : Draw σ Profile := do
  let city : City α ← choice cities
  let first ← choice firstNames
  let last ← choice lastNames
  let about ← choice abouts
  let lat ← nearby city.lat
  let lon ← nearby city.lon
  let radius := 10 + (← below 40)
  let analogPassions ← twoTexts hobbies
  let digitalDelights ← twoTexts digital
  let head ← choice wishHeads
  let tail ← choice wishTails
  let food ← choice foods
  let music ← choice musics
  let weights ← weights
  return { user, displayName := first ++ " " ++ last, aboutMe := some about,
           city := some city.name, lat := some (.real lat), lon := some (.real lon),
           maxRadius := some (.whole radius),
           analogPassions := some (.ofStrings analogPassions),
           digitalDelights := some (.ofStrings digitalDelights),
           collaboration := some (head ++ tail), food := some food, music := some music,
           preferences := some weights.toValue, complete := true }

/-- Drawn profiles of members, in their order. -/
def profiles (α : Type) [Sampling α] : List Int → Draw σ (List Profile)
  | [] => return []
  | user :: users => do
    let p ← profile α user
    let ps ← profiles α users
    return p :: ps

end

end Matchmaker.Seed
