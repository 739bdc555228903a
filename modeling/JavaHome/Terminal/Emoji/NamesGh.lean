/-!
# Emoji names: g and h
-/

namespace JavaHome.Terminal.Emoji

/-- The names under g and h. -/
def namesGh : List (String × String) :=
  [("gabon", "🇬🇦"), ("gambia", "🇬🇲"), ("gemini", "♊"), ("georgia", "🇬🇪"), ("germany", "🇩🇪"),
    ("ghana", "🇬🇭"), ("gibraltar", "🇬🇮"), ("greece", "🇬🇷"), ("greenland", "🇬🇱"), ("grenada", "🇬🇩"),
    ("guadeloupe", "🇬🇵"), ("guam", "🇬🇺"), ("guatemala", "🇬🇹"), ("guernsey", "🇬🇬"), ("guinea", "🇬🇳"),
    ("guinea-bissau", "🇬🇼"), ("guyana", "🇬🇾"), ("haiti", "🇭🇹"), ("heard_&_mcdonald_islands", "🇭🇲"),
    ("honduras", "🇭🇳"), ("hong_kong_sar_china", "🇭🇰"), ("hungary", "🇭🇺"), ("game_die", "🎲"),
    ("garlic", "🧄"), ("gear", "⚙"), ("gem_stone", "💎"), ("genie", "🧞"), ("ghost", "👻"),
    ("giraffe", "🦒"), ("girl", "👧"), ("girl_dark_skin_tone", "👧🏿"), ("girl_light_skin_tone", "👧🏻"),
    ("girl_medium-dark_skin_tone", "👧🏾"), ("girl_medium-light_skin_tone", "👧🏼"),
    ("girl_medium_skin_tone", "👧🏽"), ("glass_of_milk", "🥛"), ("glasses", "👓"),
    ("globe_showing_americas", "🌎"), ("globe_showing_asia-australia", "🌏"),
    ("globe_showing_europe-africa", "🌍"), ("globe_with_meridians", "🌐"), ("gloves", "🧤"),
    ("glowing_star", "🌟"), ("goal_net", "🥅"), ("goat", "🐐"), ("goblin", "👺"), ("goggles", "🥽"),
    ("gorilla", "🦍"), ("graduation_cap", "🎓"), ("grapes", "🍇"), ("green_apple", "🍏"),
    ("green_book", "📗"), ("green_circle", "🟢"), ("green_heart", "💚"), ("green_salad", "🥗"),
    ("green_square", "🟩"), ("grimacing_face", "😬"), ("grinning_cat_face", "😺"),
    ("grinning_cat_face_with_smiling_eyes", "😸"), ("grinning_face", "😀"),
    ("grinning_face_with_big_eyes", "😃"), ("grinning_face_with_smiling_eyes", "😄"),
    ("grinning_face_with_sweat", "😅"), ("grinning_squinting_face", "😆"), ("growing_heart", "💗"),
    ("guard", "💂"), ("guard_dark_skin_tone", "💂🏿"), ("guard_light_skin_tone", "💂🏻"),
    ("guard_medium-dark_skin_tone", "💂🏾"), ("guard_medium-light_skin_tone", "💂🏼"),
    ("guard_medium_skin_tone", "💂🏽"), ("guide_dog", "🦮"), ("guitar", "🎸"), ("hamburger", "🍔"),
    ("hammer", "🔨"), ("hammer_and_pick", "⚒"), ("hammer_and_wrench", "🛠"), ("hamster_face", "🐹"),
    ("hand_with_fingers_splayed", "🖐"), ("hand_with_fingers_splayed_dark_skin_tone", "🖐🏿"),
    ("hand_with_fingers_splayed_light_skin_tone", "🖐🏻"),
    ("hand_with_fingers_splayed_medium-dark_skin_tone", "🖐🏾"),
    ("hand_with_fingers_splayed_medium-light_skin_tone", "🖐🏼"),
    ("hand_with_fingers_splayed_medium_skin_tone", "🖐🏽"), ("handbag", "👜"), ("handshake", "🤝"),
    ("hatching_chick", "🐣"), ("headphone", "🎧"), ("hear-no-evil_monkey", "🙉"),
    ("heart_decoration", "💟"), ("heart_suit", "♥"), ("heart_with_arrow", "💘"),
    ("heart_with_ribbon", "💝"), ("heavy_check_mark", "✔"), ("heavy_division_sign", "➗"),
    ("heavy_dollar_sign", "💲"), ("heavy_heart_exclamation", "❣"), ("heavy_large_circle", "⭕"),
    ("heavy_minus_sign", "➖"), ("heavy_multiplication_x", "✖"), ("heavy_plus_sign", "➕"),
    ("hedgehog", "🦔"), ("helicopter", "🚁"), ("herb", "🌿"), ("hibiscus", "🌺"),
    ("high-heeled_shoe", "👠"), ("high-speed_train", "🚄"), ("high_voltage", "⚡"),
    ("hiking_boot", "🥾"), ("hindu_temple", "🛕"), ("hippopotamus", "🦛"), ("hole", "🕳"),
    ("honey_pot", "🍯"), ("honeybee", "🐝"), ("horizontal_traffic_light", "🚥"), ("horse", "🐴"),
    ("horse_face", "🐴"), ("horse_racing", "🏇"), ("horse_racing_dark_skin_tone", "🏇🏿"),
    ("horse_racing_light_skin_tone", "🏇🏻"), ("horse_racing_medium-dark_skin_tone", "🏇🏾"),
    ("horse_racing_medium-light_skin_tone", "🏇🏼"), ("horse_racing_medium_skin_tone", "🏇🏽"),
    ("hospital", "🏥"), ("hot_beverage", "☕"), ("hot_dog", "🌭"), ("hot_face", "🥵"),
    ("hot_pepper", "🌶"), ("hot_springs", "♨"), ("hotel", "🏨"), ("hourglass_done", "⌛"),
    ("hourglass_not_done", "⏳"), ("house", "🏠"), ("house_with_garden", "🏡"), ("houses", "🏘"),
    ("hugging_face", "🤗"), ("hundred_points", "💯"), ("hushed_face", "😯"), ("heartbeat", "💓"),
    ("hearts", "♥"), ("golf", "⛳"), ("hatched_chick", "🐥"), ("gem", "💎"), ("golfer", "🏌"),
    ("grimacing", "😬"), ("grinning", "😀"), ("grin", "😁"), ("heartpulse", "💗"), ("guardsman", "💂"),
    ("haircut", "💇"), ("hamster", "🐹"), ("headphones", "🎧"), ("hear_no_evil", "🙉"),
    ("gift_heart", "💝"), ("heart", "❤"), ("heavy_exclamation_mark", "❗"),
    ("heavy_heart_exclamation_mark_ornament", "❣"), ("helm_symbol", "⎈"),
    ("helmet_with_white_cross", "⛑"), ("high_heel", "👠"), ("high_brightness", "🔆"), ("hocho", "🔪"),
    ("hotsprings", "♨"), ("hourglass", "⌛"), ("hourglass_flowing_sand", "⏳"),
    ("house_buildings", "🏘"), ("hushed", "😯"), ("hankey", "💩"), ("gun", "🔫"), ("hand", "✋"),
    ("heart_eyes_cat", "😻"), ("heart_eyes", "😍"), ("grey_exclamation", "❕"), ("grey_question", "❔"),
    ("gift", "🎁")]

end JavaHome.Terminal.Emoji
