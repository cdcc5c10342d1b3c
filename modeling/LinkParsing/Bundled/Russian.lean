/-!
# The Russian dictionary

A small dictionary that is always at hand.  Curly brackets are escaped.
-/

namespace LinkParsing.Bundled

/-- The Russian lexicon. -/
def russianLexicon : String := "% Небольшой словарь русского языка.
%
% Connectors pointing left (-) are written farthest partner first, connectors
% pointing right (+) nearest partner first.

<dictionary-version-number>: V4v5v0+;
<dictionary-locale>: RU4ru+;

LEFT-WALL: Wd+ & \x7BXp+\x7D;

% ----------------------------------------------------------------------------
% Местоимения и существительные

я ты он она оно мы вы они: \x7BWd-\x7D & S+;

<noun>: (\x7BWd-\x7D & \x7B@A-\x7D & S+) or ((J- or O-) & \x7B@A-\x7D);

улица.n улице.n улицу.n дом.n доме.n город.n городе.n парк.n парке.n
книга.n книгу.n школа.n школе.n река.n реке.n лес.n лесу.n:
  <noun>;

% ----------------------------------------------------------------------------
% Глаголы

<verb-tail>: \x7B@MV+\x7D & \x7B[Xx+]\x7D;

иду.v идёшь.v идёт.v идём.v идут.v живу.v живёт.v живут.v гуляю.v гуляет.v:
  S- & <verb-tail>;
читаю.v читает.v вижу.v видит.v люблю.v любит.v:
  S- & \x7BO+\x7D & <verb-tail>;

% ----------------------------------------------------------------------------
% Предлоги, прилагательные, наречия

по в на к из через: MV- & J+;
большой.a большая.a большую.a новый.a новая.a новую.a старый.a старом.a: A+;
быстро.e медленно.e сегодня.e домой.e: MV-;

\".\": Xp- or [Xx-];
\"!\": Xp- or [Xx-];
\"?\": Xp- or [Xx-];
\"...\": Xp- or [Xx-];

% ----------------------------------------------------------------------------
% Неизвестные слова

NUMBERS: A+;
CAPITALIZED-WORDS: <noun>;
UNKNOWN-WORD: [<noun>] or [A+] or [MV-];
"

/-- The Russian word patterns. -/
def russianPatterns : String := "% Классы слов, которых нет в 4.0.dict.
NUMBERS: /^[0-9]+$/;
CAPITALIZED-WORDS: /^\\p\x7BLu\x7D\\p\x7BLl\x7D+$/;
"

end LinkParsing.Bundled
