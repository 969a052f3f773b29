/-!
# Tables of emoji

Which names stand for which emoji is not said by the language: it is a table that documents are read
with. `common` has the names that are met most.
-/

namespace FoldMark.Markdown.Emoji

/-- What names stand for. -/
abbrev Names := List (String × String)

/-- Names in common use. -/
def common : Names := [
  ("+1", "👍"), ("-1", "👎"), ("100", "💯"), ("a", "🅰\ufe0f"), ("arrow_right", "\u27a1\ufe0f"),
  ("arrow_up_down", "\u2195\ufe0f"), ("asterisk", "\u002a\ufe0f\u20e3"), ("b", "🅱\ufe0f"),
  ("boom", "💥"), ("bug", "🐛"), ("bulb", "💡"), ("cat", "🐱"), ("clap", "👏"), ("clock1", "🕐"),
  ("copyright", "\u00a9\ufe0f"), ("dog", "🐶"), ("e-mail", "📧"), ("email", "📧"), ("eyes", "👀"),
  ("family_man_woman_boy", "👨\u200d👩\u200d👦"), ("fire", "🔥"), ("hankey", "💩"),
  ("hash", "\u0023\ufe0f\u20e3"), ("heart", "\u2764\ufe0f"), ("heavy_check_mark", "\u2714\ufe0f"),
  ("joy", "😂"), ("jp", "🇯🇵"), ("key", "🔑"), ("lock", "🔒"), ("man_technologist", "👨\u200d💻"),
  ("memo", "📝"), ("muscle", "💪"), ("no_entry_sign", "🚫"), ("ok_hand", "👌"),
  ("one", "\u0031\ufe0f\u20e3"), ("poop", "💩"), ("pray", "🙏"), ("recycle", "\u267b\ufe0f"),
  ("red_heart", "\u2764\ufe0f"), ("rocket", "🚀"), ("smile", "😄"), ("smile_cat", "😸"), ("sob", "😭"),
  ("sparkles", "\u2728"), ("star", "\u2b50"), ("star2", "🌟"), ("sunglasses", "😎"), ("tada", "🎉"),
  ("thinking", "🤔"), ("thumbs_up", "👍"), ("thumbsdown", "👎"), ("thumbsup", "👍"),
  ("tm", "\u2122\ufe0f"), ("two", "\u0032\ufe0f\u20e3"), ("us", "🇺🇸"), ("warning", "\u26a0\ufe0f"),
  ("wave", "👋"), ("white_check_mark", "\u2705"), ("x", "\u274c"), ("zap", "\u26a1")]

end FoldMark.Markdown.Emoji
