/-!
# Emoji names: n and o
-/

namespace JavaHome.Terminal.Emoji

/-- The names under n and o. -/
def namesNToO : List (String × String) :=
  [("new_button", "🆕"), ("ng_button", "🆖"), ("namibia", "🇳🇦"), ("nauru", "🇳🇷"), ("nepal", "🇳🇵"),
    ("netherlands", "🇳🇱"), ("new_caledonia", "🇳🇨"), ("new_zealand", "🇳🇿"), ("nicaragua", "🇳🇮"),
    ("niger", "🇳🇪"), ("nigeria", "🇳🇬"), ("niue", "🇳🇺"), ("norfolk_island", "🇳🇫"),
    ("north_korea", "🇰🇵"), ("northern_mariana_islands", "🇲🇵"), ("norway", "🇳🇴"), ("ok_button", "🆗"),
    ("ok_hand", "👌"), ("ok_hand_dark_skin_tone", "👌🏿"), ("ok_hand_light_skin_tone", "👌🏻"),
    ("ok_hand_medium-dark_skin_tone", "👌🏾"), ("ok_hand_medium-light_skin_tone", "👌🏼"),
    ("ok_hand_medium_skin_tone", "👌🏽"), ("on!_arrow", "🔛"), ("o_button_(blood_type)", "🅾"),
    ("oman", "🇴🇲"), ("ophiuchus", "⛎"), ("nail_polish", "💅"), ("nail_polish_dark_skin_tone", "💅🏿"),
    ("nail_polish_light_skin_tone", "💅🏻"), ("nail_polish_medium-dark_skin_tone", "💅🏾"),
    ("nail_polish_medium-light_skin_tone", "💅🏼"), ("nail_polish_medium_skin_tone", "💅🏽"),
    ("name_badge", "📛"), ("national_park", "🏞"), ("nauseated_face", "🤢"), ("nazar_amulet", "🧿"),
    ("necktie", "👔"), ("nerd_face", "🤓"), ("neutral_face", "😐"), ("new_moon", "🌑"),
    ("new_moon_face", "🌚"), ("newspaper", "📰"), ("next_track_button", "⏭"),
    ("night_with_stars", "🌃"), ("nine-thirty", "🕤"), ("nine_o’clock", "🕘"), ("no_bicycles", "🚳"),
    ("no_entry", "⛔"), ("no_littering", "🚯"), ("no_mobile_phones", "📵"),
    ("no_one_under_eighteen", "🔞"), ("no_pedestrians", "🚷"), ("no_smoking", "🚭"),
    ("non-potable_water", "🚱"), ("nose", "👃"), ("nose_dark_skin_tone", "👃🏿"),
    ("nose_light_skin_tone", "👃🏻"), ("nose_medium-dark_skin_tone", "👃🏾"),
    ("nose_medium-light_skin_tone", "👃🏼"), ("nose_medium_skin_tone", "👃🏽"), ("notebook", "📓"),
    ("notebook_with_decorative_cover", "📔"), ("nut_and_bolt", "🔩"), ("octopus", "🐙"), ("oden", "🍢"),
    ("office_building", "🏢"), ("ogre", "👹"), ("oil_drum", "🛢"), ("old_key", "🗝"), ("old_man", "👴"),
    ("old_man_dark_skin_tone", "👴🏿"), ("old_man_light_skin_tone", "👴🏻"),
    ("old_man_medium-dark_skin_tone", "👴🏾"), ("old_man_medium-light_skin_tone", "👴🏼"),
    ("old_man_medium_skin_tone", "👴🏽"), ("old_woman", "👵"), ("old_woman_dark_skin_tone", "👵🏿"),
    ("old_woman_light_skin_tone", "👵🏻"), ("old_woman_medium-dark_skin_tone", "👵🏾"),
    ("old_woman_medium-light_skin_tone", "👵🏼"), ("old_woman_medium_skin_tone", "👵🏽"),
    ("older_adult", "🧓"), ("older_adult_dark_skin_tone", "🧓🏿"),
    ("older_adult_light_skin_tone", "🧓🏻"), ("older_adult_medium-dark_skin_tone", "🧓🏾"),
    ("older_adult_medium-light_skin_tone", "🧓🏼"), ("older_adult_medium_skin_tone", "🧓🏽"),
    ("om", "🕉"), ("oncoming_automobile", "🚘"), ("oncoming_bus", "🚍"), ("oncoming_fist", "👊"),
    ("oncoming_fist_dark_skin_tone", "👊🏿"), ("oncoming_fist_light_skin_tone", "👊🏻"),
    ("oncoming_fist_medium-dark_skin_tone", "👊🏾"), ("oncoming_fist_medium-light_skin_tone", "👊🏼"),
    ("oncoming_fist_medium_skin_tone", "👊🏽"), ("oncoming_police_car", "🚔"), ("oncoming_taxi", "🚖"),
    ("one-piece_swimsuit", "🩱"), ("one-thirty", "🕜"), ("one_o’clock", "🕐"), ("onion", "🧅"),
    ("open_book", "📖"), ("open_file_folder", "📂"), ("open_hands", "👐"),
    ("open_hands_dark_skin_tone", "👐🏿"), ("open_hands_light_skin_tone", "👐🏻"),
    ("open_hands_medium-dark_skin_tone", "👐🏾"), ("open_hands_medium-light_skin_tone", "👐🏼"),
    ("open_hands_medium_skin_tone", "👐🏽"), ("open_mailbox_with_lowered_flag", "📭"),
    ("open_mailbox_with_raised_flag", "📬"), ("optical_disk", "💿"), ("orange_book", "📙"),
    ("orange_circle", "🟠"), ("orange_heart", "🧡"), ("orange_square", "🟧"), ("orangutan", "🦧"),
    ("orthodox_cross", "☦"), ("otter", "🦦"), ("outbox_tray", "📤"), ("owl", "🦉"), ("ox", "🐂"),
    ("oyster", "🦪"), ("no_bell", "🔕"), ("no_good", "🙅"), ("ok_woman", "🙆"), ("open_mouth", "😮"),
    ("no_mouth", "😶"), ("o", "⭕"), ("one", "1️⃣"), ("nine", "9️⃣"), ("notes", "🎶"),
    ("nail_care", "💅"), ("negative_squared_cross_mark", "❎"), ("o2", "🅾"),
    ("new_moon_with_face", "🌚"), ("no_entry_sign", "🚫"), ("non__potable_water", "🚱"),
    ("office", "🏢"), ("older_man", "👴"), ("older_woman", "👵"), ("om_symbol", "🕉"), ("on", "🔛"),
    ("new", "🆕"), ("ng", "🆖"), ("ok", "🆗"), ("ocean", "🌊")]

end JavaHome.Terminal.Emoji
