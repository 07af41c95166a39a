import Matchmaker.Text.Search

/-!
# Taxonomies

Tables of named groups of keywords. A text belongs to every group with a keyword that occurs in it.

* `Taxonomy.groupsOf`: the groups of a text;
* `Taxonomy.share`: two texts have a group in common (`share_iff`, `share_comm`).
-/

namespace Matchmaker

/-- A group of keywords. -/
structure Group where
  name : String
  keywords : List String
  deriving DecidableEq, Repr

/-- A table of groups with different names. -/
abbrev Taxonomy := List Group

/-- A keyword of the group occurs in the text. -/
def Group.touches (g : Group) (text : String) : Bool :=
  g.keywords.any (Text.occurs · text)

namespace Taxonomy

/-- The names of the groups that a text belongs to. -/
def groupsOf (t : Taxonomy) (text : String) : List String :=
  (t.filter (·.touches text)).map Group.name

/-- The number of groups that two texts both belong to. -/
def common (t : Taxonomy) (x y : String) : Nat :=
  t.countP fun g => g.touches x && g.touches y

/-- Two texts have a group in common. -/
def share (t : Taxonomy) (x y : String) : Bool :=
  t.any fun g => g.touches x && g.touches y

theorem share_iff {t : Taxonomy} {x y : String} :
    t.share x y = true ↔ ∃ g ∈ t, g.touches x = true ∧ g.touches y = true := by
  simp [share]

theorem share_comm (t : Taxonomy) (x y : String) : t.share x y = t.share y x := by
  simp [share, Bool.and_comm]

theorem common_comm (t : Taxonomy) (x y : String) : t.common x y = t.common y x := by
  simp [common, Bool.and_comm]

/-! ## The tables -/

/-- Groups of interests. -/
def interests : Taxonomy :=
  [⟨"music", ["music", "singing", "piano", "guitar", "drums", "composition", "recording"]⟩,
    ⟨"visual-arts", ["art", "painting", "drawing", "photography", "design", "graphics"]⟩,
    ⟨"tech", ["programming", "coding", "software", "hardware", "electronics", "robotics"]⟩,
    ⟨"crafts", ["knitting", "sewing", "woodworking", "pottery", "jewelry", "crafting"]⟩,
    ⟨"games", ["gaming", "boardgames", "videogames", "rpg", "strategy", "puzzle"]⟩,
    ⟨"outdoor", ["hiking", "cycling", "running", "camping", "climbing", "nature"]⟩,
    ⟨"food", ["cooking", "baking", "brewing", "wine", "coffee", "culinary"]⟩,
    ⟨"fitness", ["yoga", "martial arts", "gym", "sports", "dance", "fitness"]⟩]

/-- For what one member offers, the words by which another asks for it. -/
def complements : Taxonomy :=
  [⟨"teach", ["learn", "student", "beginner"]⟩,
    ⟨"mentor", ["mentee", "guidance", "help"]⟩,
    ⟨"code", ["programming", "development", "software"]⟩,
    ⟨"design", ["ui", "ux", "graphic", "visual"]⟩,
    ⟨"music", ["band", "jam", "collaborate", "duet"]⟩,
    ⟨"art", ["paint", "draw", "create", "studio"]⟩,
    ⟨"craft", ["handmade", "diy", "workshop", "build"]⟩,
    ⟨"gaming", ["multiplayer", "coop", "guild", "team"]⟩]

/-- Categories of collaboration. -/
def collaborations : Taxonomy :=
  [⟨"creative", ["art", "design", "music", "writing", "craft", "creative"]⟩,
    ⟨"technical", ["code", "programming", "tech", "computer", "digital"]⟩,
    ⟨"social", ["group", "team", "community", "meetup", "social"]⟩,
    ⟨"educational", ["teach", "learn", "study", "workshop", "class"]⟩,
    ⟨"gaming", ["game", "gaming", "play", "rpg", "board"]⟩]

/-- Families of cuisines. -/
def cuisines : Taxonomy :=
  [⟨"asian", ["chinese", "japanese", "thai", "korean", "vietnamese", "indian"]⟩,
    ⟨"european", ["italian", "french", "german", "spanish", "greek"]⟩,
    ⟨"healthy", ["vegan", "vegetarian", "organic", "salad"]⟩]

/-- Families of music. -/
def genres : Taxonomy :=
  [⟨"rock", ["rock", "metal", "punk", "alternative", "grunge"]⟩,
    ⟨"electronic", ["techno", "house", "edm", "ambient", "synth"]⟩,
    ⟨"jazz", ["jazz", "blues", "swing", "bebop"]⟩]

end Taxonomy

/-- Words that both members use to look for the same kind of collaboration. -/
def sharedKeywords : List String :=
  ["d&d", "teaching", "learning", "collaborative"]

end Matchmaker
