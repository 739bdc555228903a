/-!
# Emoji names: c
-/

namespace JavaHome.Terminal.Emoji

/-- The names under c. -/
def namesC : List (String × String) :=
  [("cl_button", "🆑"), ("cool_button", "🆒"), ("cambodia", "🇰🇭"), ("cameroon", "🇨🇲"),
    ("canada", "🇨🇦"), ("canary_islands", "🇮🇨"), ("cancer", "♋"), ("cape_verde", "🇨🇻"),
    ("capricorn", "♑"), ("caribbean_netherlands", "🇧🇶"), ("cayman_islands", "🇰🇾"),
    ("central_african_republic", "🇨🇫"), ("ceuta_&_melilla", "🇪🇦"), ("chad", "🇹🇩"), ("chile", "🇨🇱"),
    ("china", "🇨🇳"), ("christmas_island", "🇨🇽"), ("christmas_tree", "🎄"),
    ("clipperton_island", "🇨🇵"), ("cocos_(keeling)_islands", "🇨🇨"), ("colombia", "🇨🇴"),
    ("comoros", "🇰🇲"), ("congo_-_brazzaville", "🇨🇬"), ("congo_-_kinshasa", "🇨🇩"),
    ("cook_islands", "🇨🇰"), ("costa_rica", "🇨🇷"), ("croatia", "🇭🇷"), ("cuba", "🇨🇺"),
    ("curaçao", "🇨🇼"), ("cyprus", "🇨🇾"), ("czechia", "🇨🇿"), ("côte_d’ivoire", "🇨🇮"),
    ("cactus", "🌵"), ("calendar", "📆"), ("call_me_hand", "🤙"),
    ("call_me_hand_dark_skin_tone", "🤙🏿"), ("call_me_hand_light_skin_tone", "🤙🏻"),
    ("call_me_hand_medium-dark_skin_tone", "🤙🏾"), ("call_me_hand_medium-light_skin_tone", "🤙🏼"),
    ("call_me_hand_medium_skin_tone", "🤙🏽"), ("camel", "🐫"), ("camera", "📷"),
    ("camera_with_flash", "📸"), ("camping", "🏕"), ("candle", "🕯"), ("candy", "🍬"),
    ("canned_food", "🥫"), ("canoe", "🛶"), ("card_file_box", "🗃"), ("card_index", "📇"),
    ("card_index_dividers", "🗂"), ("carousel_horse", "🎠"), ("carp_streamer", "🎏"), ("carrot", "🥕"),
    ("castle", "🏰"), ("cat", "🐱"), ("cat_face", "🐱"), ("cat_face_with_tears_of_joy", "😹"),
    ("cat_face_with_wry_smile", "😼"), ("chains", "⛓"), ("chair", "🪑"), ("chart_decreasing", "📉"),
    ("chart_increasing", "📈"), ("chart_increasing_with_yen", "💹"), ("cheese_wedge", "🧀"),
    ("chequered_flag", "🏁"), ("cherries", "🍒"), ("cherry_blossom", "🌸"), ("chess_pawn", "♟"),
    ("chestnut", "🌰"), ("chicken", "🐔"), ("child", "🧒"), ("child_dark_skin_tone", "🧒🏿"),
    ("child_light_skin_tone", "🧒🏻"), ("child_medium-dark_skin_tone", "🧒🏾"),
    ("child_medium-light_skin_tone", "🧒🏼"), ("child_medium_skin_tone", "🧒🏽"),
    ("children_crossing", "🚸"), ("chipmunk", "🐿"), ("chocolate_bar", "🍫"), ("chopsticks", "🥢"),
    ("church", "⛪"), ("cigarette", "🚬"), ("cinema", "🎦"), ("circled_m", "Ⓜ"), ("circus_tent", "🎪"),
    ("cityscape", "🏙"), ("cityscape_at_dusk", "🌆"), ("clamp", "🗜"), ("clapper_board", "🎬"),
    ("clapping_hands", "👏"), ("clapping_hands_dark_skin_tone", "👏🏿"),
    ("clapping_hands_light_skin_tone", "👏🏻"), ("clapping_hands_medium-dark_skin_tone", "👏🏾"),
    ("clapping_hands_medium-light_skin_tone", "👏🏼"), ("clapping_hands_medium_skin_tone", "👏🏽"),
    ("classical_building", "🏛"), ("clinking_beer_mugs", "🍻"), ("clinking_glasses", "🥂"),
    ("clipboard", "📋"), ("clockwise_vertical_arrows", "🔃"), ("closed_book", "📕"),
    ("closed_mailbox_with_lowered_flag", "📪"), ("closed_mailbox_with_raised_flag", "📫"),
    ("closed_umbrella", "🌂"), ("cloud", "☁"), ("cloud_with_lightning", "🌩"),
    ("cloud_with_lightning_and_rain", "⛈"), ("cloud_with_rain", "🌧"), ("cloud_with_snow", "🌨"),
    ("clown_face", "🤡"), ("club_suit", "♣"), ("clutch_bag", "👝"), ("coat", "🧥"),
    ("cocktail_glass", "🍸"), ("coconut", "🥥"), ("coffin", "⚰"), ("cold_face", "🥶"),
    ("collision", "💥"), ("comet", "☄"), ("compass", "🧭"), ("computer_disk", "💽"),
    ("computer_mouse", "🖱"), ("confetti_ball", "🎊"), ("confounded_face", "😖"),
    ("confused_face", "😕"), ("construction", "🚧"), ("construction_worker", "👷"),
    ("construction_worker_dark_skin_tone", "👷🏿"), ("construction_worker_light_skin_tone", "👷🏻"),
    ("construction_worker_medium-dark_skin_tone", "👷🏾"),
    ("construction_worker_medium-light_skin_tone", "👷🏼"),
    ("construction_worker_medium_skin_tone", "👷🏽"), ("control_knobs", "🎛"),
    ("convenience_store", "🏪"), ("cooked_rice", "🍚"), ("cookie", "🍪"), ("cooking", "🍳"),
    ("copyright", "©"), ("couch_and_lamp", "🛋"), ("counterclockwise_arrows_button", "🔄"),
    ("couple_with_heart", "💑"), ("couple_with_heart_man_man", "👨‍❤️‍👨"),
    ("couple_with_heart_woman_man", "👩‍❤️‍👨"), ("couple_with_heart_woman_woman", "👩‍❤️‍👩"),
    ("cow", "🐮"), ("cow_face", "🐮"), ("cowboy_hat_face", "🤠"), ("crab", "🦀"), ("crayon", "🖍"),
    ("credit_card", "💳"), ("crescent_moon", "🌙"), ("cricket", "🦗"), ("cricket_game", "🏏"),
    ("crocodile", "🐊"), ("croissant", "🥐"), ("cross_mark", "❌"), ("cross_mark_button", "❎"),
    ("crossed_fingers", "🤞"), ("crossed_fingers_dark_skin_tone", "🤞🏿"),
    ("crossed_fingers_light_skin_tone", "🤞🏻"), ("crossed_fingers_medium-dark_skin_tone", "🤞🏾"),
    ("crossed_fingers_medium-light_skin_tone", "🤞🏼"), ("crossed_fingers_medium_skin_tone", "🤞🏽"),
    ("crossed_flags", "🎌"), ("crossed_swords", "⚔"), ("crown", "👑"), ("crying_cat_face", "😿"),
    ("crying_face", "😢"), ("crystal_ball", "🔮"), ("cucumber", "🥒"), ("cupcake", "🧁"),
    ("cup_with_straw", "🥤"), ("curling_stone", "🥌"), ("curly_hair", "🦱"),
    ("curly-haired_man", "👨‍🦱"), ("curly-haired_woman", "👩‍🦱"), ("curly_loop", "➰"),
    ("currency_exchange", "💱"), ("curry_rice", "🍛"), ("custard", "🍮"), ("customs", "🛃"),
    ("cut_of_meat", "🥩"), ("cyclone", "🌀"), ("car", "🚗"), ("clubs", "♣"), ("cat2", "🐈"),
    ("chart_with_downwards_trend", "📉"), ("chart_with_upwards_trend", "📈"), ("chart", "💹"),
    ("checkered_flag", "🏁"), ("congratulations", "㊗"), ("city_sunset", "🌆"), ("clapper", "🎬"),
    ("clap", "👏"), ("clock830", "🕣"), ("clock8", "🕗"), ("clock1130", "🕦"), ("clock11", "🕚"),
    ("clock530", "🕠"), ("clock5", "🕔"), ("clock430", "🕟"), ("clock4", "🕓"), ("clock930", "🕤"),
    ("clock9", "🕘"), ("clock130", "🕜"), ("clock1", "🕐"), ("clock730", "🕢"), ("clock7", "🕖"),
    ("clock630", "🕡"), ("clock6", "🕕"), ("clock1030", "🕥"), ("clock10", "🕙"), ("clock330", "🕞"),
    ("clock3", "🕒"), ("clock1230", "🕧"), ("clock12", "🕛"), ("clock230", "🕝"), ("clock2", "🕑"),
    ("closed_lock_with_key", "🔐"), ("cloud_with_tornado", "🌪"), ("cocktail", "🍸"),
    ("compression", "🗜"), ("confounded", "😖"), ("confused", "😕"), ("cow2", "🐄"),
    ("cricket_bat_and_ball", "🏏"), ("cry", "😢"), ("curry", "🍛"), ("corn", "🌽"), ("cold_sweat", "😰"),
    ("cupid", "💘"), ("coffee", "☕"), ("capital_abcd", "🔠"), ("couplekiss", "💏"), ("couple", "👫"),
    ("calling", "📲"), ("cd", "💿"), ("computer", "💻"), ("cop", "👮"), ("cake", "🍰"), ("cl", "🆑"),
    ("cool", "🆒"), ("city_sunrise", "🌇")]

end JavaHome.Terminal.Emoji
