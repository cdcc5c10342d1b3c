/-!
# The English dictionary

A small dictionary that is always at hand.  Curly brackets are escaped.
-/

namespace LinkParsing.Bundled

/-- The English lexicon. -/
def englishLexicon : String := "% A small English dictionary.
%
% Connectors pointing left (-) are written farthest partner first, connectors
% pointing right (+) nearest partner first.

<dictionary-version-number>: V5v9v0+;
<dictionary-locale>: EN4us+;

LEFT-WALL: Wd+ & \x7BXp+\x7D;

% ----------------------------------------------------------------------------
% Nouns and pronouns

<noun-s>: (\x7BWd-\x7D & \x7BD-\x7D & \x7B@A-\x7D & Ss+) or ((J- or O-) & \x7BD-\x7D & \x7B@A-\x7D);
<noun-p>: (\x7BWd-\x7D & \x7BD-\x7D & \x7B@A-\x7D & Sp+) or ((J- or O-) & \x7BD-\x7D & \x7B@A-\x7D);

dog.n fox.n cat.n man.n woman.n child.n park.n street.n house.n city.n
book.n bird.n tree.n river.n garden.n:
  <noun-s>;

dogs.n foxes.n cats.n men.n women.n children.n books.n birds.n trees.n:
  <noun-p>;

he she it: (\x7BWd-\x7D & Ss+) or J- or O-;
I we they you: (\x7BWd-\x7D & Sp+) or J- or O-;
him her them us me: J- or O-;

% ----------------------------------------------------------------------------
% Verbs

<verb-tail>: \x7B@MV+\x7D & \x7B[Xx+]\x7D;

jumps.v runs.v walks.v sleeps.v lives.v sits.v: Ss- & <verb-tail>;
jump.v run.v walk.v sleep.v live.v sit.v: Sp- & <verb-tail>;
sees.v likes.v reads.v chases.v: Ss- & O+ & <verb-tail>;
see.v like.v read.v chase.v: Sp- & O+ & <verb-tail>;

% ----------------------------------------------------------------------------
% Modifiers

the: D+;
a an: Ds+;
quick.a brown.a lazy.a big.a small.a red.a old.a young.a green.a: A+;
over in on at under near with into: MV- & J+;
quickly.e slowly.e today.e here.e: MV-;

\".\": Xp- or [Xx-];
\"!\": Xp- or [Xx-];
\"?\": Xp- or [Xx-];
\"...\": Xp- or [Xx-];

% ----------------------------------------------------------------------------
% Fallbacks

NUMBERS: A+;
CAPITALIZED-WORDS: <noun-s>;
UNKNOWN-WORD: [<noun-s>] or [A+] or [MV-];
"

/-- The English word patterns. -/
def englishPatterns : String := "% Word classes for words missing from 4.0.dict, tried in order.
NUMBERS: /^[0-9]+$/;
CAPITALIZED-WORDS: /^[A-Z][a-z]+$/;
"

end LinkParsing.Bundled
